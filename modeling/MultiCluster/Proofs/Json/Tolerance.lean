import MultiCluster.Proofs.Json.Growth

namespace MultiCluster.Json

universe u

theorem map_eq_ok_of_imp {α β : Type u} {x y : Except Misfit α} {f : α → β} {b : β}
    (h : ∀ a, x = .ok a → y = .ok a) (hx : x.map f = .ok b) : y.map f = .ok b := by
  cases x with
  | error e => exact absurd hx (by simp [Except.map])
  | ok a =>
    rw [h a rfl]
    exact hx

structure Tolerates {α : Type} (decode : Route → Doc → Except Misfit α) (growth : Growth)
    (depth : Nat) : Prop where
  decode_grown : ∀ {route route' d d' v}, d.repeatsNoKey = true → growth d d' →
    decode route d = .ok v → decode route' d' = .ok v
  fits : FitsWithin depth growth

section

variable {α β : Type} {decode : Route → Doc → Except Misfit α} {growth : Growth} {depth : Nat}
  {c : Codec α}

theorem tolerates_leaf
    (hroute : ∀ route route' d, decode route d = decode route' d)
    (harray : ∀ route items v, decode route (.array items) ≠ .ok v)
    (hobject : ∀ route members v, decode route (.object members) ≠ .ok v) :
    Tolerates decode Doc.Shuffled depth where
  decode_grown {route route' d d' v} _ hgrown h := by
    have hsame : d' = d := hgrown.eq_of_leaf (fun items heq => harray route items v (heq ▸ h))
      fun members heq => hobject route members v (heq ▸ h)
    rw [hsame, ← hroute route route', h]
  fits := fitsWithin_shuffled depth

theorem Codec.tolerates_text : Tolerates Codec.text.decode Doc.Shuffled depth :=
  tolerates_leaf (fun _ _ _ => rfl) (by simp [Codec.text]) (by simp [Codec.text])

theorem Codec.tolerates_bool : Tolerates Codec.bool.decode Doc.Shuffled depth :=
  tolerates_leaf (fun _ _ _ => rfl) (by simp [Codec.bool]) (by simp [Codec.bool])

theorem Codec.tolerates_word : Tolerates Codec.word.decode Doc.Shuffled depth :=
  tolerates_leaf (fun _ _ _ => rfl) (by simp [Codec.word]) (by simp [Codec.word])

namespace Tolerates

theorem map (h : Tolerates decode growth depth) (f : α → β) :
    Tolerates (fun route d => (decode route d).map f) growth depth where
  decode_grown hkeys hgrown hd := map_eq_ok_of_imp (fun _ => h.decode_grown hkeys hgrown) hd
  fits := h.fits

theorem forall₂ (h : Tolerates decode growth depth) {route route' : Route} {items items' : List Doc}
    {vs : List α} (hkeys : ∀ d ∈ items, d.repeatsNoKey = true)
    (hgrown : List.Forall₂ growth items items')
    (hread : List.Forall₂ (fun d v => decode route d = .ok v) items vs) :
    List.Forall₂ (fun d v => decode route' d = .ok v) items' vs := by
  induction hgrown generalizing vs with
  | nil =>
    obtain rfl := List.forall₂_nil_left_iff.mp hread
    exact .nil
  | cons hfirst _ ih =>
    obtain ⟨v, more, hv, hmore, rfl⟩ := List.forall₂_cons_left_iff.mp hread
    obtain ⟨hkey, hrest⟩ := List.forall_mem_cons.mp hkeys
    exact .cons (h.decode_grown hkey hfirst hv) (ih hrest hmore)

theorem list (h : Tolerates c.decode growth depth) :
    Tolerates c.list.decode (.Items growth) (depth + 1) where
  decode_grown {route route' d d' vs} hkeys hgrown hd := by
    cases hgrown with
    | array hitems =>
      rw [Doc.repeatsNoKey_array_iff] at hkeys
      exact Codec.decodeItems_eq_ok_iff.mpr
        (h.forall₂ hkeys hitems (Codec.decodeItems_eq_ok_iff.mp hd))
  fits room d d' hroom hgrown hd := by
    cases hgrown with
    | array hitems =>
      rw [Doc.isHoldable_array_iff] at hd ⊢
      refine ⟨hd.1, fun e' he' => ?_⟩
      obtain ⟨e, he, hvalue⟩ := exists_of_mem_right hitems he'
      exact h.fits (by omega) hvalue (hd.2 e he)

theorem wrapped (h : Tolerates c.decode growth depth) (wrap : α → β) (unwrap : β → α) :
    Tolerates (c.wrapped wrap unwrap).decode growth depth :=
  h.map wrap

theorem option (h : Tolerates c.decode growth depth) (hnull : ∀ route v, c.decode route .null ≠ .ok v) :
    Tolerates c.option.decode (.Optional growth) depth where
  decode_grown {route route' d d' o} hkeys hgrown hd := by
    have hsome (route : Route) {d : Doc} (hsome : d ≠ .null) :
        c.option.decode route d = (c.decode route d).map some := by
      cases d with
      | null => exact absurd rfl hsome
      | _ => rfl
    cases hgrown with
    | null => exact hd
    | value hvalue hgrown =>
      rw [hsome route hvalue] at hd
      have hread : (c.decode route' _).map some = .ok o := (h.map some).decode_grown hkeys hgrown hd
      refine (hsome route' ?_).trans hread
      rintro rfl
      cases hnone : c.decode route' .null with
      | error e => simp [hnone, Except.map] at hread
      | ok v => exact hnull route' v hnone
  fits room d d' hroom hgrown hd := by
    cases hgrown with
    | null => exact hd
    | value _ hgrown => exact h.fits hroom hgrown hd

theorem entries (h : Tolerates decode growth depth) {route route' : Route} {members moved : Members}
    {read : List (String × α)} (hkeys : ∀ m ∈ members, m.2.repeatsNoKey = true)
    (hgrown : InPlace (fun _ => growth) members moved)
    (hread : List.Forall₂ (fun m e => m.1 = some e.1 ∧ decode route m.2 = .ok e.2) members read) :
    List.Forall₂ (fun m e => m.1 = some e.1 ∧ decode route' m.2 = .ok e.2) moved read := by
  induction hgrown generalizing read with
  | nil =>
    obtain rfl := List.forall₂_nil_left_iff.mp hread
    exact .nil
  | cons hfirst _ ih =>
    obtain ⟨e, more, ⟨hname, hv⟩, hmore, rfl⟩ := List.forall₂_cons_left_iff.mp hread
    obtain ⟨hkey, hrest⟩ := List.forall_mem_cons.mp hkeys
    exact .cons ⟨hfirst.1.trans hname, h.decode_grown hkey hfirst.2 hv⟩ (ih hrest hmore)

theorem dict (h : Tolerates c.decode Doc.Shuffled depth) :
    Tolerates c.dict.decode Doc.Shuffled depth where
  decode_grown {route route' d d' entries} hkeys hgrown hd := by
    cases d with
    | object members =>
      obtain ⟨moved, members', rfl, hplaced, hmoved⟩ := hgrown.of_object
      rw [Doc.repeatsNoKey_object_iff] at hkeys
      obtain ⟨read, hread, rfl⟩ := Codec.decodeEntries_eq_ok_iff.mp hd
      have hnames : read.map Prod.fst = members.filterMap Prod.fst := by
        clear hd hplaced hmoved hkeys hgrown
        induction hread with
        | nil => rfl
        | cons hfirst _ ih => simp [hfirst.1, ih]
      have hplacedRead : List.Forall₂ (fun m e => m.1 = some e.1 ∧ c.decode route' m.2 = .ok e.2)
          moved read := h.entries hkeys.2 hplaced hread
      obtain ⟨read', hread', hperm⟩ := List.perm_comp_forall₂ hmoved hplacedRead
      refine Codec.decodeEntries_eq_ok_iff.mpr ⟨read', hread', ?_⟩
      exact Dict.ofList_perm (hnames ▸ hkeys.1) hperm.symm
    | _ => simp [Codec.dict] at hd
  fits := fitsWithin_shuffled depth

end Tolerates

end

inductive Fields.Tolerates (depth : Nat) :
    {αs : List Type} → Fields αs → List (String × Growth) → Prop
  | nil : Tolerates depth .nil []
  | cons {α : Type} {αs : List Type} {f : Field α} {rest : Fields αs} {growth : Growth}
      {known : List (String × Growth)} (first : Json.Tolerates f.codec.decode growth depth)
      (others : Tolerates depth rest known) :
      Tolerates depth (.cons f rest) ((f.name, growth) :: known)

theorem Fills.grown {τ : Type} {decode : Route → Doc → Except Misfit τ} {growth : Growth} {depth : Nat}
    (h : Tolerates decode growth depth) {route route' : Route} {before after : Option τ}
    {docs docs' moved : List Doc} (hkeys : ∀ d ∈ docs, d.repeatsNoKey = true)
    (hgrown : List.Forall₂ growth docs docs') (hmoved : moved.Perm docs')
    (hfills : Fills (decode route) before docs after) : Fills (decode route') before moved after := by
  cases before with
  | some v =>
    obtain ⟨rfl, rfl⟩ := fills_some_iff.mp hfills
    obtain rfl := List.forall₂_nil_left_iff.mp hgrown
    exact fills_some_iff.mpr ⟨hmoved.eq_nil, rfl⟩
  | none =>
    rcases fills_none_iff.mp hfills with ⟨rfl, rfl⟩ | ⟨d, v, rfl, hd, rfl⟩
    · obtain rfl := List.forall₂_nil_left_iff.mp hgrown
      exact fills_none_iff.mpr (.inl ⟨hmoved.eq_nil, rfl⟩)
    · obtain ⟨d', rfl, hvalue⟩ := exists_eq_singleton hgrown hmoved
      have hread : decode route' d' = .ok v := h.decode_grown (hkeys d List.mem_cons_self) hvalue hd
      exact fills_none_iff.mpr (.inr ⟨d', v, rfl, hread, rfl⟩)

section

variable {key : String} {members : Members}

theorem repeatsNoKey_of_mem_valuesAt (h : ∀ m ∈ members, m.2.repeatsNoKey = true) :
    ∀ d ∈ valuesAt key members, d.repeatsNoKey = true :=
  fun d hd => h (some key, d) (mem_valuesAt_iff.mp hd)

theorem repeatsNoKey_of_mem_others (h : ∀ m ∈ members, m.2.repeatsNoKey = true) :
    ∀ m ∈ others key members, m.2.repeatsNoKey = true :=
  fun m hm => h m (mem_others_iff.mp hm).1

end

namespace Fields

variable {αs : List Type} {fs : Fields αs} {known : List (String × Growth)} {depth : Nat}

theorem Tolerates.finds (h : fs.Tolerates depth known) {route route' : Route} {draft : Draft αs}
    {row : Row αs} {members members' : Members} (hkeys : ∀ m ∈ members, m.2.repeatsNoKey = true)
    (hgrown : MembersGrow known members members') (hfinds : fs.Finds route draft members row) :
    fs.Finds route' draft members' row := by
  induction h generalizing members members' with
  | nil => exact hgrown.skips hfinds
  | cons first _ ih =>
    obtain ⟨found, draft⟩ := draft
    obtain ⟨v, vs⟩ := row
    obtain ⟨⟨slot, hslot, hvalue⟩, hrest⟩ := hfinds
    obtain ⟨⟨docs, hdocs, hmoved⟩, hothers⟩ := hgrown.split
    exact ⟨⟨slot, hslot.grown first (repeatsNoKey_of_mem_valuesAt hkeys) hdocs hmoved, hvalue⟩,
      ih (repeatsNoKey_of_mem_others hkeys) hothers hrest⟩

theorem Tolerates.decodeObject (h : fs.Tolerates depth known) {route route' : Route} {row : Row αs}
    {members members' : Members} (hkeys : ∀ m ∈ members, m.2.repeatsNoKey = true)
    (hgrown : MembersGrow known members members') (hread : fs.decodeObject route members = .ok row) :
    fs.decodeObject route' members' = .ok row :=
  decodeObject_eq_ok_iff.mpr (h.finds hkeys hgrown (decodeObject_eq_ok_iff.mp hread))

theorem takeItems_nil_eq_ok_iff {α : Type} {f : Field α} {rest : Fields αs} {route : Route}
    {expected : String} {index : Nat} {v : α} {vs : Row αs} {left : List Doc} :
    (cons f rest).takeItems route expected index [] = .ok ((v, vs), left) ↔
      f.whenAbsent = some v ∧ rest.takeItems route expected (index + 1) [] = .ok (vs, left) := by
  simp only [takeItems]
  cases f.whenAbsent with
  | none => simp
  | some w =>
    cases rest.takeItems route expected (index + 1) [] with
    | error e => simp
    | ok taken =>
      obtain ⟨ws, more⟩ := taken
      constructor
      · intro h
        obtain ⟨hrow, rfl⟩ := Prod.mk.inj (Except.ok.inj h)
        obtain ⟨rfl, rfl⟩ := Prod.mk.inj hrow
        exact ⟨rfl, rfl⟩
      · rintro ⟨hfirst, hrest⟩
        obtain ⟨rfl, rfl⟩ := Prod.mk.inj (Except.ok.inj hrest)
        rw [Option.some.inj hfirst]

theorem takeItems_cons_eq_ok_iff {α : Type} {f : Field α} {rest : Fields αs} {route : Route}
    {expected : String} {index : Nat} {v : α} {vs : Row αs} {d : Doc} {items left : List Doc} :
    (cons f rest).takeItems route expected index (d :: items) = .ok ((v, vs), left) ↔
      f.codec.decode route d = .ok v ∧
        rest.takeItems route expected (index + 1) items = .ok (vs, left) := by
  simp only [takeItems]
  cases f.codec.decode route d with
  | error e => simp
  | ok w =>
    cases rest.takeItems route expected (index + 1) items with
    | error e => simp
    | ok taken =>
      obtain ⟨ws, more⟩ := taken
      constructor
      · intro h
        obtain ⟨hrow, rfl⟩ := Prod.mk.inj (Except.ok.inj h)
        obtain ⟨rfl, rfl⟩ := Prod.mk.inj hrow
        exact ⟨rfl, rfl⟩
      · rintro ⟨hfirst, hrest⟩
        obtain ⟨rfl, rfl⟩ := Prod.mk.inj (Except.ok.inj hrest)
        rw [Except.ok.inj hfirst]

theorem Tolerates.takeItems (h : fs.Tolerates depth known) {route route' : Route}
    {expected expected' : String} {index index' : Nat} {row : Row αs} {items items' left : List Doc}
    (hkeys : ∀ d ∈ items, d.repeatsNoKey = true) (hgrown : ItemsGrow (known.map Prod.snd) items items')
    (hread : fs.takeItems route expected index items = .ok (row, left)) :
    left = [] ∧ fs.takeItems route' expected' index' items' = .ok (row, []) := by
  induction h generalizing items items' left index index' with
  | nil =>
    cases hgrown
    obtain ⟨rfl, rfl⟩ := Prod.mk.inj (Except.ok.inj hread)
    exact ⟨rfl, rfl⟩
  | @cons _ _ _ _ _ known first others ih =>
    obtain ⟨v, vs⟩ := row
    cases hgrown with
    | nil =>
      obtain ⟨habsent, hrest⟩ := takeItems_nil_eq_ok_iff.mp hread
      obtain ⟨rfl, hmore⟩ := ih hkeys (.nil (known.map Prod.snd)) hrest
      exact ⟨rfl, takeItems_nil_eq_ok_iff.mpr ⟨habsent, hmore⟩⟩
    | cons hfirst hitems =>
      obtain ⟨hd, hrest⟩ := takeItems_cons_eq_ok_iff.mp hread
      obtain ⟨hkey, hothers⟩ := List.forall_mem_cons.mp hkeys
      obtain ⟨rfl, hmore⟩ := ih hothers hitems hrest
      exact ⟨rfl, takeItems_cons_eq_ok_iff.mpr ⟨first.decode_grown hkey hfirst hd, hmore⟩⟩

theorem Tolerates.decodeArray (h : fs.Tolerates depth known) {route route' : Route}
    {title : String} {row : Row αs} {items items' : List Doc}
    (hkeys : ∀ d ∈ items, d.repeatsNoKey = true) (hgrown : ItemsGrow (known.map Prod.snd) items items')
    (hread : fs.decodeArray route title items = .ok row) :
    fs.decodeArray route' title items' = .ok row := by
  rw [decodeArray.eq_def] at hread ⊢
  cases htaken : fs.takeItems route (title ++ " with " ++ elements fs.size) 0 items with
  | error e =>
    rw [htaken] at hread
    exact absurd hread (by simp)
  | ok taken =>
    obtain ⟨vs, left⟩ := taken
    obtain ⟨rfl, htaken'⟩ := h.takeItems hkeys hgrown htaken
    rw [htaken] at hread
    rw [htaken']
    exact hread

theorem Tolerates.fits (h : fs.Tolerates depth known) : ∀ entry ∈ known, FitsWithin depth entry.2 := by
  induction h with
  | nil => simp
  | cons first _ ih => exact List.forall_mem_cons.mpr ⟨first.fits, ih⟩

end Fields

theorem ItemsGrow.isHoldable {growths : List Growth} {items items' : List Doc} {depth room : Nat}
    (h : ItemsGrow growths items items') (hfits : ∀ growth ∈ growths, FitsWithin depth growth)
    (hroom : additionRoom + depth ≤ room) (hitems : ∀ d ∈ items, d.isHoldable room = true) :
    ∀ d ∈ items', d.isHoldable room = true := by
  induction h with
  | nil => exact hitems
  | cons first _ ih =>
    obtain ⟨hgrowth, hmore⟩ := List.forall_mem_cons.mp hfits
    obtain ⟨hd, hrest⟩ := List.forall_mem_cons.mp hitems
    exact List.forall_mem_cons.mpr ⟨hgrowth hroom first hd, ih hmore hrest⟩

theorem FitsWithin.record {known : List (String × Growth)} {depth : Nat}
    (h : ∀ entry ∈ known, FitsWithin depth entry.2) : FitsWithin (depth + 1) (.Record known) := by
  intro room d d' hroom hgrown hd
  cases hgrown with
  | object hmembers =>
    rw [Doc.isHoldable_object_iff] at hd ⊢
    exact ⟨hd.1, hmembers.keeps h (by omega) hd.2⟩
  | array hitems =>
    rw [Doc.isHoldable_array_iff] at hd ⊢
    exact ⟨hd.1, hitems.isHoldable (List.forall_mem_map.mpr h) (by omega) hd.2⟩

theorem Codec.tolerates_record {β : Type} {αs : List Type} {fs : Fields αs}
    {known : List (String × Growth)} {depth : Nat} (title : String) (toRow : β → Row αs)
    (ofRow : Row αs → β) (h : fs.Tolerates depth known) :
    Tolerates (Codec.record title fs toRow ofRow).decode (.Record known) (depth + 1) := by
  have hfields : Tolerates (fun route d => fs.decode route title d) (.Record known) (depth + 1) :=
    { decode_grown := fun {route route' d d' row} hkeys hgrown hread => by
        cases hgrown with
        | object hmembers =>
          exact h.decodeObject (Doc.repeatsNoKey_object_iff.mp hkeys).2 hmembers hread
        | array hitems => exact h.decodeArray (Doc.repeatsNoKey_array_iff.mp hkeys) hitems hread
      fits := .record h.fits }
  exact hfields.map ofRow

theorem Codec.decode_record_null {β : Type} {αs : List Type} {fs : Fields αs} {title : String}
    {toRow : β → Row αs} {ofRow : Row αs → β} (route : Route) (b : β) :
    (Codec.record title fs toRow ofRow).decode route .null ≠ .ok b := by
  simp [Codec.record, Fields.decode, Except.map]

theorem takeOutRequired_grown {τ : Type u} {decode decode' : Doc → Except Misfit τ} {growth : Growth}
    {known : List (String × Growth)} {key : String} {depth : Nat}
    (hdecode : ∀ ⦃d d' t⦄, d.repeatsNoKey = true → growth d d' → decode d = .ok t → decode' d' = .ok t)
    (hfits : ∀ entry ∈ known, FitsWithin depth entry.2) (hroom : additionRoom + depth ≤ innerRoom)
    {t : τ} {members members' left : Members} (hkeys : ∀ m ∈ members, m.2.repeatsNoKey = true)
    (hgrown : MembersGrow ((key, growth) :: known) members members')
    (htaken : takeOutRequired key decode members = .ok (t, left)) :
    takeOutRequired key decode' members' = .ok (t, others key members') ∧
      MembersGrow known left (others key members') ∧ ∀ m ∈ left, m.2.repeatsNoKey = true := by
  obtain ⟨⟨d, hd, ht⟩, rfl, hkeeps⟩ := takeOutRequired_eq_ok_iff.mp htaken
  obtain ⟨⟨docs, hdocs, hmoved⟩, hothers⟩ := hgrown.split
  rw [hd] at hdocs
  obtain ⟨d', hd', hvalue⟩ := exists_eq_singleton hdocs hmoved
  have hkey : d.repeatsNoKey = true := repeatsNoKey_of_mem_valuesAt hkeys d (hd ▸ List.mem_cons_self)
  have ht' : decode' d' = .ok t := hdecode hkey hvalue ht
  exact ⟨takeOutRequired_eq_ok_iff.mpr ⟨⟨d', hd', ht'⟩, rfl,
    hothers.keeps hfits hroom hkeeps⟩, hothers, repeatsNoKey_of_mem_others hkeys⟩

theorem mem_of_choose {κ : Type u} {tag : κ → String} {kinds : List κ} {name : String} {k : κ}
    (h : choose tag kinds name = .ok k) : k ∈ kinds := by
  unfold choose at h
  split at h
  · rename_i found hfound
    obtain rfl := Except.ok.inj h
    exact List.mem_of_find?_eq_some hfound
  · exact absurd h (by simp)

namespace Beside

variable {α : Type} {b : Beside α}

theorem mem_of_readTag {d : Doc} {v : Variant α} (h : b.readTag d = .ok v) : v ∈ b.variants := by
  cases d with
  | str text =>
    cases text with
    | none => exact absurd h (by simp [readTag])
    | some name => exact mem_of_choose h
  | _ => exact absurd h (by simp [readTag])

theorem readTag_grown {d d' : Doc} {v : Variant α} (hgrown : Doc.Shuffled d d')
    (h : b.readTag d = .ok v) : b.readTag d' = .ok v := by
  have hsame : d' = d := hgrown.eq_of_leaf (fun _ heq => absurd h (by simp [heq, readTag]))
    fun _ heq => absurd h (by simp [heq, readTag])
  rw [hsame, h]

theorem decode_grown {known : String → List (String × Growth)} {depth : Nat}
    (h : ∀ v ∈ b.variants, v.fields.Tolerates depth (known v.tag))
    (hroom : additionRoom + depth ≤ innerRoom) {d d' : Doc} {value : α} (hkeys : d.repeatsNoKey = true)
    (hgrown : Growth.Beside b known d d') (hread : b.decode d = .ok value) : b.decode d' = .ok value := by
  cases hgrown with
  | @object tag v members members' htag hv hmembers =>
    have hfields := h v (mem_of_readTag hv)
    have hvalues := (Doc.repeatsNoKey_object_iff.mp hkeys).2
    rw [decode] at hread ⊢
    cases htaken : takeOutRequired b.tagKey b.readTag members with
    | error e =>
      rw [htaken] at hread
      exact absurd hread (by simp)
    | ok taken =>
      obtain ⟨named, left⟩ := taken
      obtain ⟨⟨d, hd, hnamed⟩, -, -⟩ := takeOutRequired_eq_ok_iff.mp htaken
      obtain rfl : tag = d := List.mem_singleton.mp (hd ▸ mem_valuesAt_iff.mpr htag)
      obtain rfl := Except.ok.inj (hv.symm.trans hnamed)
      obtain ⟨htaken', hleft, hkeysLeft⟩ := takeOutRequired_grown (fun _ _ _ _ => readTag_grown)
        hfields.fits hroom hvalues hmembers htaken
      rw [htaken] at hread
      rw [htaken']
      exact map_eq_ok_of_imp (fun _ => hfields.decodeObject hkeysLeft hleft) hread
  | @array tag v items items' hv hitems =>
    have hfields := h v (mem_of_readTag hv)
    have hvalues := (List.forall_mem_cons.mp (Doc.repeatsNoKey_array_iff.mp hkeys)).2
    simp only [decode, hv] at hread ⊢
    split at hread
    · rename_i hheld
      have hheld' : Doc.areHoldable innerRoom items' = true := by
        rw [Doc.areHoldable_iff] at hheld ⊢
        exact hitems.isHoldable (List.forall_mem_map.mpr hfields.fits) hroom hheld
      rw [if_pos hheld']
      exact map_eq_ok_of_imp (fun _ => hfields.decodeArray hvalues hitems) hread
    · exact absurd hread (by simp)

end Beside

namespace Adjacent

variable {α : Type} {a : Adjacent α}

theorem readTag_eq_ok_iff {d : Doc} {kind : Kind α} : a.readTag d = .ok kind ↔
    ∃ name, choose Kind.tag a.kinds name = .ok kind ∧
      (d = .str (some name) ∨ d = .object [(some name, .null)]) := by
  constructor
  · intro h
    unfold readTag at h
    split at h
    · exact ⟨_, h, .inl rfl⟩
    · rename_i name value rest
      cases hchosen : choose Kind.tag a.kinds name with
      | error e => simp [hchosen] at h
      | ok chosen =>
        cases value with
        | null =>
          cases rest with
          | nil => exact ⟨name, by simpa [hchosen] using h, .inr rfl⟩
          | cons m more => simp [hchosen] at h
        | _ => simp [hchosen] at h
    · exact absurd h (by simp)
    · exact absurd h (by simp)
  · rintro ⟨name, hchosen, rfl | rfl⟩
    · exact hchosen
    · simp [readTag, hchosen]

theorem mem_of_readTag {d : Doc} {kind : Kind α} (h : a.readTag d = .ok kind) : kind ∈ a.kinds := by
  obtain ⟨name, hchosen, -⟩ := readTag_eq_ok_iff.mp h
  exact mem_of_choose hchosen

theorem readTag_grown {d d' : Doc} {kind : Kind α} (hgrown : Doc.Shuffled d d')
    (h : a.readTag d = .ok kind) : a.readTag d' = .ok kind := by
  obtain ⟨name, hchosen, rfl | rfl⟩ := readTag_eq_ok_iff.mp h
  · rwa [hgrown.eq_of_leaf (by simp) (by simp)]
  · obtain ⟨moved, members', rfl, hplaced, hmoved⟩ := hgrown.of_object
    obtain ⟨m, rfl, hkey, hvalue⟩ := exists_eq_singleton hplaced hmoved
    have hnull : m = (some name, .null) := Prod.ext hkey (hvalue.eq_of_leaf (by simp) (by simp))
    rwa [hnull]

theorem mem_of_readName {d : Doc} {kind : Kind α} (h : a.readName d = .ok kind) : kind ∈ a.kinds := by
  cases d with
  | str text =>
    cases text with
    | none => exact absurd h (by simp [readName])
    | some name => exact mem_of_choose h
  | _ => exact absurd h (by simp [readName])

theorem Makes.grown {kind : Kind α} {growth : Growth} {depth : Nat}
    (h : Tolerates (fun route d => kind.content.decode route d) growth depth)
    {route route' : Route} {docs docs' moved : List Doc} {value : α}
    (hkeys : ∀ d ∈ docs, d.repeatsNoKey = true) (hgrown : List.Forall₂ growth docs docs')
    (hmoved : moved.Perm docs')
    (hkept : route' = .kept → ∀ d ∈ moved, d.isHoldable innerRoom = true)
    (hmakes : a.Makes route kind docs value) : a.Makes route' kind moved value := by
  rcases hmakes with ⟨rfl, halone⟩ | ⟨d, rfl, -, hd⟩
  · obtain rfl := List.forall₂_nil_left_iff.mp hgrown
    exact .inl ⟨hmoved.eq_nil, halone⟩
  · obtain ⟨d', rfl, hvalue⟩ := exists_eq_singleton hgrown hmoved
    have hd' : kind.content.decode route' d' = .ok value :=
      h.decode_grown (hkeys d List.mem_cons_self) hvalue hd
    exact .inr ⟨d', rfl, fun hroute => hkept hroute d' List.mem_cons_self, hd'⟩

theorem decode_grown {content : String → Growth} {depth : Nat} (hne : a.contentKey ≠ a.tagKey)
    (h : ∀ kind ∈ a.kinds,
      Tolerates (fun route d => kind.content.decode route d) (content kind.tag) depth)
    (hroom : additionRoom + depth ≤ innerRoom) {d d' : Doc} {value : α} (hkeys : d.repeatsNoKey = true)
    (hgrown : Growth.Adjacent a content d d') (hread : a.decode d = .ok value) :
    a.decode d' = .ok value := by
  cases hgrown with
  | @object tag kind members members' htag hkind hmembers hkept =>
    have hcontent := h kind (mem_of_readTag hkind)
    have hvalues := (Doc.repeatsNoKey_object_iff.mp hkeys).2
    obtain ⟨⟨named, kind', hd, hnamed, hmakes⟩, hrest⟩ := (decodeObject_eq_ok_iff hne).mp hread
    obtain rfl : tag = named := List.mem_singleton.mp (hd ▸ mem_valuesAt_iff.mpr htag)
    obtain rfl := Except.ok.inj (hkind.symm.trans hnamed)
    obtain ⟨⟨tags, htags, hmovedTag⟩, hothers⟩ := hmembers.split
    obtain ⟨⟨docs, hdocs, hmoved⟩, hunknown⟩ := hothers.split
    rw [hd] at htags
    obtain ⟨tag', htag', hshuffled⟩ := exists_eq_singleton htags hmovedTag
    have hheld (hroute : a.contentRoute members' = .kept) :
        ∀ d' ∈ a.contents members', d'.isHoldable innerRoom = true := by
      intro d' hd'
      obtain ⟨d, hd, hvalue⟩ := exists_of_mem_right hdocs (hmoved.mem_iff.mp hd')
      exact hcontent.fits hroom hvalue (hkept hroute d hd)
    have hmakes' : a.Makes (a.contentRoute members') kind (a.contents members') value :=
      hmakes.grown hcontent (repeatsNoKey_of_mem_valuesAt (repeatsNoKey_of_mem_others hvalues)) hdocs
        hmoved hheld
    exact (decodeObject_eq_ok_iff hne).mpr
      ⟨⟨tag', kind, htag', readTag_grown hshuffled hkind, hmakes'⟩, hunknown.skips hrest⟩
  | @array tag d d' kind hkind hvalue =>
    have hcontent := h kind (mem_of_readName hkind)
    have hkey : d.repeatsNoKey = true := Doc.repeatsNoKey_array_iff.mp hkeys d (by simp)
    simp only [decode, hkind, List.isEmpty_nil, ↓reduceIte] at hread ⊢
    cases hd : kind.content.decode .direct d with
    | error e =>
      rw [hd] at hread
      exact absurd hread (by simp)
    | ok made =>
      rw [hd] at hread
      have hd' : kind.content.decode .direct d' = .ok made := hcontent.decode_grown hkey hvalue hd
      rw [hd']
      exact hread

end Adjacent

def Codec.Endures {α : Type} (c : Codec α) (growth : Growth) : Prop :=
  ∀ text text' v, (Doc.read text).1.repeatsNoKey = true →
    growth (Doc.read text).1 (Doc.read text').1 → (Doc.read text').2 = false →
      c.read text = .ok v → c.read text' = .ok v

theorem Codec.endures {α : Type} {c : Codec α} {growth : Growth}
    (h : ∀ ⦃d d' v⦄, d.repeatsNoKey = true → growth d d' → c.decode .direct d = .ok v →
      c.decode .direct d' = .ok v) : c.Endures growth := by
  intro text text' v hkeys hgrown hend hread
  cases hd : c.decode .direct (Doc.read text).1 with
  | error e => simp [Codec.read, Codec.ofDoc, hd] at hread
  | ok w =>
    have hd' := h hkeys hgrown hd
    have hvalue : w = v := by
      cases hmore : (Doc.read text).2 with
      | true => simp [Codec.read, Codec.ofDoc, hd, hmore] at hread
      | false => simpa [Codec.read, Codec.ofDoc, hd, hmore] using hread
    simp [Codec.read, Codec.ofDoc, hd', hend, hvalue]

theorem Tolerates.endures {α : Type} {c : Codec α} {growth : Growth} {depth : Nat}
    (h : Tolerates c.decode growth depth) : c.Endures growth :=
  Codec.endures fun _ _ _ hkeys hgrown hd => h.decode_grown hkeys hgrown hd

end MultiCluster.Json
