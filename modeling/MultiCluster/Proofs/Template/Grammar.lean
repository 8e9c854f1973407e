import MultiCluster.Proofs.Template.Reference

namespace MultiCluster

namespace CatalogRef

def keyed (key : String) (value : List Char) : List Char := key.toList ++ '=' :: value

def HasKey (key : String) (piece : List Char) : Prop := ∃ value, piece = keyed key value

def HoldsLast (key : String) (value : List Char) (pieces : List (List Char)) : Prop :=
  ∃ before after, pieces = before ++ keyed key value :: after ∧ ∀ later ∈ after, ¬ HasKey key later

structure Spells (pieces : List (List Char)) (ref : CatalogRef) : Prop where
  paired : ∀ piece ∈ pieces, piece ≠ [] → '=' ∈ piece
  catalog : ∃ path, path ≠ "" ∧ HoldsLast "catalog" path.toList pieces ∧
    ref.catalog = Text.replaceChar '/' ':' path
  template : ref.template ≠ "" ∧ HoldsLast "template" ref.template.toList pieces
  version : ref.version ≠ "" ∧ HoldsLast "version" ref.version.toList pieces

def written (pieces : List (List Char)) : String :=
  String.ofList (scheme.toList ++ ['&'].intercalate pieces)

inductive Reads : List (List Char) → List (List Char × List Char) → Prop
  | nil : Reads [] []
  | empty {pieces pairs} : Reads pieces pairs → Reads ([] :: pieces) pairs
  | pair {piece pair pieces pairs} : Text.cut '=' piece = some pair → Reads pieces pairs →
      Reads (piece :: pieces) (pair :: pairs)

theorem reads_iff {pieces : List (List Char)} {pairs : List (List Char × List Char)} :
    (pieces.filter fun piece => !piece.isEmpty).mapM (Text.cut '=') = some pairs ↔ Reads pieces pairs := by
  induction pieces generalizing pairs with
  | nil =>
    constructor
    · intro h
      obtain rfl : [] = pairs := Option.some.inj h
      exact .nil
    · intro h
      cases h
      rfl
  | cons piece rest ih =>
    cases piece with
    | nil =>
      rw [List.filter_cons_of_neg (by simp), ih]
      constructor
      · exact .empty
      · intro h
        cases h with
        | empty hrest => exact hrest
        | pair hcut _ => exact absurd hcut (by simp [Text.cut])
    | cons c chars =>
      rw [List.filter_cons_of_pos (by simp), List.mapM_cons]
      constructor
      · intro h
        obtain ⟨pair, hcut, h⟩ := Option.bind_eq_some_iff.mp h
        obtain ⟨others, hothers, h⟩ := Option.bind_eq_some_iff.mp h
        obtain rfl : pair :: others = pairs := Option.some.inj h
        exact .pair hcut (ih.mp hothers)
      · intro h
        cases h with
        | pair hcut hrest =>
          rw [hcut, ih.mpr hrest]
          rfl

theorem Reads.paired {pieces : List (List Char)} {pairs : List (List Char × List Char)}
    (h : Reads pieces pairs) : ∀ piece ∈ pieces, piece ≠ [] → '=' ∈ piece := by
  induction h with
  | nil => simp
  | empty _ ih => simpa using ih
  | pair hcut _ ih =>
    refine List.forall_mem_cons.mpr ⟨fun _ => ?_, ih⟩
    exact Decidable.byContradiction fun hno => absurd hcut (by simp [Text.cut_eq_none_iff.mpr hno])

theorem exists_reads {pieces : List (List Char)} (h : ∀ piece ∈ pieces, piece ≠ [] → '=' ∈ piece) :
    ∃ pairs, Reads pieces pairs := by
  induction pieces with
  | nil => exact ⟨[], .nil⟩
  | cons piece rest ih =>
    obtain ⟨hpiece, hrest⟩ := List.forall_mem_cons.mp h
    obtain ⟨pairs, hpairs⟩ := ih hrest
    by_cases hempty : piece = []
    · exact ⟨pairs, hempty ▸ .empty hpairs⟩
    · obtain ⟨pair, hcut⟩ : ∃ pair, Text.cut '=' piece = some pair :=
        Option.ne_none_iff_exists'.mp fun hnone => Text.cut_eq_none_iff.mp hnone (hpiece hempty)
      exact ⟨pair :: pairs, .pair hcut hpairs⟩

variable {key : String} {value : List Char} {pieces : List (List Char)}

theorem cut_eq_iff_keyed {piece : List Char} (hkey : '=' ∉ key.toList) :
    Text.cut '=' piece = some (key.toList, value) ↔ piece = keyed key value := by
  rw [Text.cut_eq_some_iff, keyed]
  exact and_iff_left hkey

theorem hasKey_iff {piece : List Char} {pair : List Char × List Char} (hkey : '=' ∉ key.toList)
    (hcut : Text.cut '=' piece = some pair) : HasKey key piece ↔ pair.1 = key.toList := by
  constructor
  · rintro ⟨value, hpiece⟩
    rw [(cut_eq_iff_keyed hkey).mpr hpiece] at hcut
    exact (congrArg Prod.fst (Option.some.inj hcut)).symm
  · intro hpair
    exact ⟨pair.2, (cut_eq_iff_keyed hkey).mp (hpair ▸ hcut)⟩

theorem not_hasKey_nil : ¬ HasKey key [] := by
  rintro ⟨value, h⟩
  exact absurd h (by simp [keyed])

theorem holdsLast_cons {piece : List Char} :
    HoldsLast key value (piece :: pieces) ↔
      HoldsLast key value pieces ∨ piece = keyed key value ∧ ∀ later ∈ pieces, ¬ HasKey key later := by
  constructor
  · rintro ⟨before, after, hsplit, hafter⟩
    cases before with
    | nil =>
      obtain ⟨rfl, rfl⟩ := List.cons.inj hsplit
      exact .inr ⟨rfl, hafter⟩
    | cons first others =>
      obtain ⟨-, rfl⟩ := List.cons.inj hsplit
      exact .inl ⟨others, after, rfl, hafter⟩
  · rintro (⟨before, after, rfl, hafter⟩ | ⟨rfl, hrest⟩)
    · exact ⟨piece :: before, after, rfl, hafter⟩
    · exact ⟨[], pieces, rfl, hrest⟩

theorem lastValue_cons (pair : List Char × List Char) (pairs : List (List Char × List Char)) :
    lastValue key (pair :: pairs) =
      (lastValue key pairs).or (if pair.1 = key.toList then some pair.2 else none) := by
  unfold lastValue
  rw [List.reverse_cons, List.find?_append, Option.map_or, List.find?_singleton]
  split <;> simp_all

theorem Reads.lastValue_eq_none_iff {pairs : List (List Char × List Char)} (hkey : '=' ∉ key.toList)
    (h : Reads pieces pairs) : lastValue key pairs = none ↔ ∀ piece ∈ pieces, ¬ HasKey key piece := by
  induction h with
  | nil => simp [lastValue]
  | empty _ ih => rw [ih, List.forall_mem_cons, and_iff_right not_hasKey_nil]
  | pair hcut _ ih =>
    rw [lastValue_cons, Option.or_eq_none_iff, ih, List.forall_mem_cons, hasKey_iff hkey hcut, and_comm]
    simp

theorem Reads.lastValue_eq_some_iff {pairs : List (List Char × List Char)} (hkey : '=' ∉ key.toList)
    (h : Reads pieces pairs) : lastValue key pairs = some value ↔ HoldsLast key value pieces := by
  induction h with
  | nil => simp [lastValue, HoldsLast]
  | empty _ ih =>
    rw [ih, holdsLast_cons]
    exact (or_iff_left (by simp [keyed])).symm
  | pair hcut hrest ih =>
    rename_i piece pair _ _
    have hpiece : (if pair.1 = key.toList then some pair.2 else none) = some value ↔
        piece = keyed key value := by
      obtain ⟨found, rest⟩ := pair
      rw [← cut_eq_iff_keyed hkey, hcut]
      simp
    rw [lastValue_cons, Option.or_eq_some_iff, ih, hrest.lastValue_eq_none_iff hkey, holdsLast_cons, hpiece,
      and_comm]

theorem required_eq_ok_iff {fault : CatalogRefFault} {pairs : List (List Char × List Char)} {name : String} :
    required key fault pairs = .ok name ↔ name ≠ "" ∧ lastValue key pairs = some name.toList := by
  refine ⟨fun h => ?_, fun ⟨hname, hlast⟩ => required_of_lastValue hname hlast⟩
  unfold required at h
  split at h
  · exact absurd h (by simp)
  · exact absurd h (by simp)
  · rename_i found hsome hlast
    obtain rfl : String.ofList found = name := Except.ok.inj h
    rw [String.toList_ofList]
    exact ⟨fun hempty => hsome (String.ofList_eq_empty_iff.mp hempty), hlast⟩

theorem readQuery_of_reads {query : List Char} {pairs : List (List Char × List Char)} {ref : CatalogRef}
    (h : Reads (Text.pieces '&' query) pairs) :
    readQuery query = .ok ref ↔
      ∃ path, required "catalog" .missingCatalog pairs = .ok path ∧
        ref.catalog = Text.replaceChar '/' ':' path ∧
        required "template" .missingTemplate pairs = .ok ref.template ∧
        required "version" .missingVersion pairs = .ok ref.version := by
  have hpairs : queryPairs query = some pairs := reads_iff.mpr h
  rw [readQuery, hpairs]
  simp only
  cases required "catalog" .missingCatalog pairs with
  | error fault => simp [bind, Except.bind]
  | ok path =>
    cases required "template" .missingTemplate pairs with
    | error fault => simp [bind, Except.bind]
    | ok template =>
      cases required "version" .missingVersion pairs with
      | error fault => simp [bind, Except.bind]
      | ok version =>
        obtain ⟨catalog, _, _⟩ := ref
        simp [bind, Except.bind, pure, Except.pure, eq_comm]

theorem readQuery_eq_ok_iff {query : List Char} {ref : CatalogRef} :
    readQuery query = .ok ref ↔ Spells (Text.pieces '&' query) ref := by
  have hcatalog : '=' ∉ "catalog".toList := by decide
  have htemplate : '=' ∉ "template".toList := by decide
  have hversion : '=' ∉ "version".toList := by decide
  constructor
  · intro h
    have hpaired : ∃ pairs, Reads (Text.pieces '&' query) pairs := by
      cases hq : queryPairs query with
      | none => exact absurd h (by simp [readQuery, hq])
      | some pairs => exact ⟨pairs, reads_iff.mp hq⟩
    obtain ⟨pairs, hreads⟩ := hpaired
    obtain ⟨path, hpath, hslash, htemp, hvers⟩ := (readQuery_of_reads hreads).mp h
    obtain ⟨hpathne, hpath⟩ := required_eq_ok_iff.mp hpath
    obtain ⟨htempne, htemp⟩ := required_eq_ok_iff.mp htemp
    obtain ⟨hversne, hvers⟩ := required_eq_ok_iff.mp hvers
    exact {
      paired := hreads.paired
      catalog := ⟨path, hpathne, (hreads.lastValue_eq_some_iff hcatalog).mp hpath, hslash⟩
      template := ⟨htempne, (hreads.lastValue_eq_some_iff htemplate).mp htemp⟩
      version := ⟨hversne, (hreads.lastValue_eq_some_iff hversion).mp hvers⟩ }
  · intro h
    obtain ⟨pairs, hreads⟩ := exists_reads h.paired
    obtain ⟨path, hpathne, hpath, hslash⟩ := h.catalog
    refine (readQuery_of_reads hreads).mpr ⟨path, ?_, hslash, ?_, ?_⟩
    · exact required_of_lastValue hpathne ((hreads.lastValue_eq_some_iff hcatalog).mpr hpath)
    · exact required_of_lastValue h.template.1
        ((hreads.lastValue_eq_some_iff htemplate).mpr h.template.2)
    · exact required_of_lastValue h.version.1 ((hreads.lastValue_eq_some_iff hversion).mpr h.version.2)

theorem read_eq_ok_iff {externalId : String} {ref : CatalogRef} :
    read externalId = .ok ref ↔
      ∃ query, externalId.toList = scheme.toList ++ query ∧ Spells (Text.pieces '&' query) ref := by
  unfold read
  cases hstart : scheme.toList.isPrefixOf? externalId.toList with
  | none =>
    refine iff_of_false (by simp) ?_
    rintro ⟨query, hquery, -⟩
    exact absurd (Text.isPrefixOf?_eq_some_iff.mpr hquery) (by simp [hstart])
  | some query =>
    have hquery := Text.isPrefixOf?_eq_some_iff.mp hstart
    have hok : (readQuery query).mapError (ResolutionError.invalidExternalId externalId) = .ok ref ↔
        readQuery query = .ok ref := by
      cases readQuery query with
      | error fault => exact iff_of_false nofun nofun
      | ok found =>
        constructor
        · rintro ⟨⟩
          rfl
        · rintro ⟨⟩
          rfl
    simp only [hok, readQuery_eq_ok_iff]
    constructor
    · exact fun h => ⟨query, hquery, h⟩
    · rintro ⟨other, hother, h⟩
      obtain rfl : query = other := List.append_cancel_left (hquery.symm.trans hother)
      exact h

theorem read_eq_ok_iff_written {externalId : String} {ref : CatalogRef} :
    read externalId = .ok ref ↔
      ∃ pieces, pieces ≠ [] ∧ (∀ piece ∈ pieces, '&' ∉ piece) ∧ externalId = written pieces ∧
        Spells pieces ref := by
  rw [read_eq_ok_iff]
  constructor
  · rintro ⟨query, hquery, h⟩
    refine ⟨Text.pieces '&' query, Text.pieces_ne_nil '&' query,
      fun piece hpiece => Text.notMem_of_mem_pieces hpiece, ?_, h⟩
    rw [written, Text.intercalate_pieces, ← hquery, String.ofList_toList]
  · rintro ⟨pieces, hsome, hclear, rfl, h⟩
    refine ⟨['&'].intercalate pieces, String.toList_ofList, ?_⟩
    rwa [Text.pieces_intercalate hsome hclear]

def pathOf (ref : CatalogRef) : String := Text.replaceChar ':' '/' ref.catalog

def named (ref : CatalogRef) : List (List Char) :=
  [keyed "catalog" (pathOf ref).toList, keyed "template" ref.template.toList,
    keyed "version" ref.version.toList]

def counted : List String := ["catalog", "template", "version"]

theorem equals_notMem_of_counted : ∀ key ∈ counted, '=' ∉ key.toList := by
  decide

def IsOther (piece : List Char) : Prop :=
  '&' ∉ piece ∧ (piece = [] ∨ ∃ key value, piece = keyed key value ∧ '=' ∉ key.toList ∧ key ∉ counted)

theorem not_hasKey_keyed {other : String} (hkey : '=' ∉ key.toList) (hother : '=' ∉ other.toList)
    (hne : other ≠ key) : ¬ HasKey key (keyed other value) := by
  rw [hasKey_iff hkey ((cut_eq_iff_keyed hother).mpr rfl)]
  exact fun h => hne (String.toList_inj.mp h)

theorem IsOther.not_hasKey {piece : List Char} (h : IsOther piece) (hkey : key ∈ counted) :
    ¬ HasKey key piece := by
  rcases h.2 with rfl | ⟨other, value, rfl, hother, hnot⟩
  · exact not_hasKey_nil
  · exact not_hasKey_keyed (equals_notMem_of_counted key hkey) hother fun h => hnot (h ▸ hkey)

theorem equals_mem_keyed : '=' ∈ keyed key value :=
  List.mem_append_right key.toList List.mem_cons_self

theorem IsOther.paired {piece : List Char} (h : IsOther piece) (hsome : piece ≠ []) : '=' ∈ piece := by
  obtain ⟨key, value, rfl, -, -⟩ := h.2.resolve_left hsome
  exact equals_mem_keyed

theorem holdsLast_of_perm {others : List (List Char)} (hperm : pieces.Perm (keyed key value :: others))
    (hothers : ∀ other ∈ others, ¬ HasKey key other) : HoldsLast key value pieces := by
  obtain ⟨before, after, rfl⟩ := List.append_of_mem (hperm.mem_iff.mpr List.mem_cons_self)
  have hrest : (before ++ after).Perm others := (List.perm_middle.symm.trans hperm).cons_inv
  exact ⟨before, after, rfl, fun later hlater =>
    hothers later (hrest.mem_iff.mp (List.mem_append_right before hlater))⟩

theorem not_hasKey_of_others {extras : List (List Char)} (hextras : ∀ extra ∈ extras, IsOther extra)
    {first second : String} {x y : List Char} (hcounted : ∀ k ∈ [key, first, second], k ∈ counted)
    (hne : ∀ k ∈ [first, second], k ≠ key) :
    ∀ other ∈ keyed first x :: keyed second y :: extras, ¬ HasKey key other := by
  simp only [List.forall_mem_cons] at hcounted hne ⊢
  obtain ⟨hkey, hfirst, hsecond, -⟩ := hcounted
  have hclear := equals_notMem_of_counted
  refine ⟨not_hasKey_keyed (hclear key hkey) (hclear first hfirst) hne.1,
    not_hasKey_keyed (hclear key hkey) (hclear second hsecond) hne.2.1, fun extra hextra => ?_⟩
  exact (hextras extra hextra).not_hasKey hkey

theorem spells_of_perm {ref : CatalogRef} (href : ref.Wellformed) {extras : List (List Char)}
    (hextras : ∀ extra ∈ extras, IsOther extra) (hperm : pieces.Perm (named ref ++ extras)) :
    Spells pieces ref := by
  have htemplate := hperm.trans (.swap _ _ _)
  have hversion := (hperm.trans (.cons _ (.swap _ _ _))).trans (.swap _ _ _)
  exact {
    paired := by
      intro piece hpiece hsome
      rcases List.mem_append.mp (hperm.mem_iff.mp hpiece) with hnamed | hextra
      · have hkeyed : ∀ piece ∈ named ref, '=' ∈ piece := by
          simp only [named, List.forall_mem_cons]
          exact ⟨equals_mem_keyed, equals_mem_keyed, equals_mem_keyed, by simp⟩
        exact hkeyed piece hnamed
      · exact (hextras piece hextra).paired hsome
    catalog := ⟨pathOf ref, Text.replaceChar_ne_empty href.catalog.1,
      holdsLast_of_perm hperm (not_hasKey_of_others hextras (by decide) (by decide)),
      (Text.replaceChar_replaceChar href.unslashed).symm⟩
    template := ⟨href.template.1,
      holdsLast_of_perm htemplate (not_hasKey_of_others hextras (by decide) (by decide))⟩
    version := ⟨href.version.1,
      holdsLast_of_perm hversion (not_hasKey_of_others hextras (by decide) (by decide))⟩ }

theorem ampersand_notMem_keyed (hkey : '&' ∉ key.toList) (hvalue : '&' ∉ value) : '&' ∉ keyed key value := by
  simp [keyed, hkey, hvalue]

theorem ampersand_notMem_named {ref : CatalogRef} (href : ref.Wellformed) :
    ∀ piece ∈ named ref, '&' ∉ piece := by
  simp only [named, List.forall_mem_cons]
  exact ⟨ampersand_notMem_keyed (by decide) (Text.notMem_replaceChar href.catalog.2 (by decide)),
    ampersand_notMem_keyed (by decide) href.template.2, ampersand_notMem_keyed (by decide) href.version.2,
    by simp⟩

theorem reads_its_grammar :
    (∀ externalId ref, read externalId = .ok ref ↔
      ∃ pieces, pieces ≠ [] ∧ (∀ piece ∈ pieces, '&' ∉ piece) ∧ externalId = written pieces ∧
        Spells pieces ref) ∧
    ∀ ref : CatalogRef, ref.Wellformed → ∀ extras, (∀ extra ∈ extras, IsOther extra) →
      ∀ pieces, pieces.Perm (named ref ++ extras) → read (written pieces) = .ok ref := by
  refine ⟨fun _ _ => read_eq_ok_iff_written, fun ref href extras hextras pieces hperm => ?_⟩
  refine read_eq_ok_iff_written.mpr ⟨pieces, ?_, ?_, rfl, spells_of_perm href hextras hperm⟩
  · rintro rfl
    exact absurd hperm.nil_eq (by simp [named])
  · intro piece hpiece
    rcases List.mem_append.mp (hperm.mem_iff.mp hpiece) with hnamed | hextra
    · exact ampersand_notMem_named href piece hnamed
    · exact (hextras piece hextra).1

theorem reads_pieces_in_another_order :
    read "catalog://?&version=7.3.8&icon=a=b&template=wordpress&&catalog=p-1/library" =
      .ok ⟨"p-1:library", "wordpress", "7.3.8"⟩ := by
  have hwritten : "catalog://?&version=7.3.8&icon=a=b&template=wordpress&&catalog=p-1/library" =
      written ["".toList, "version=7.3.8".toList, "icon=a=b".toList, "template=wordpress".toList, "".toList,
        "catalog=p-1/library".toList] := by
    decide +kernel
  rw [hwritten]
  refine reads_its_grammar.2 _ (by decide) ["".toList, "icon=a=b".toList, "".toList] ?_ _ (by decide +kernel)
  simp only [List.forall_mem_cons]
  have hicon : IsOther "icon=a=b".toList :=
    ⟨by decide, .inr ⟨"icon", "a=b".toList, by decide, by decide, by decide⟩⟩
  exact ⟨⟨by decide, .inl (by decide)⟩, hicon, ⟨by decide, .inl (by decide)⟩, by simp⟩

end CatalogRef

end MultiCluster
