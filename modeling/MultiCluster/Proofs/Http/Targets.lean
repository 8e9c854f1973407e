import MultiCluster.Proofs.Http.Endings
import MultiCluster.Proofs.Http.Octets
import MultiCluster.Proofs.Http.Requests

namespace MultiCluster

namespace Http

variable {directory a b id text path : List Char} {segment : List Char} {c : Char}

theorem joined_pieces (path : List Char) : joined (Text.pieces '/' path) = '/' :: path := by
  induction path with
  | nil => rfl
  | cons c rest ih =>
    rw [Text.pieces]
    by_cases hc : c = '/'
    · rw [if_pos hc, joined_cons, ih, hc, List.nil_append]
    · rw [if_neg hc]
      cases hpieces : Text.pieces '/' rest with
      | nil => exact absurd hpieces (Text.pieces_ne_nil '/' rest)
      | cons piece others =>
        rw [hpieces, joined_cons] at ih
        rw [joined_cons, List.cons_append, (List.cons.inj ih).2]

theorem joined_map_encode {stays : Char → Bool} (h : stays '/' = true) (segments : List (List Char)) :
    joined (segments.map (encode stays)) = encode stays (joined segments) := by
  induction segments with
  | nil => rfl
  | cons segment rest ih =>
    rw [List.map_cons, joined_cons, joined_cons, ih, encode, encode, encode, List.flatMap_cons, if_pos h,
      List.flatMap_append]
    rfl

theorem encode_eq_of_pieces {stays : Char → Bool} (hslash : stays '/' = true)
    (h : (Text.pieces '/' a).map (encode stays) = (Text.pieces '/' b).map (encode stays)) :
    encode stays a = encode stays b := by
  have hjoined := congrArg joined h
  rw [joined_map_encode hslash, joined_map_encode hslash, joined_pieces, joined_pieces, encode, encode,
    List.flatMap_cons, List.flatMap_cons, List.append_cancel_left_eq] at hjoined
  exact hjoined

theorem target_inj {segments others : List (List Char)} {query other : Option String}
    (hsegments : ∀ segment ∈ segments, '/' ∉ segment ∧ '?' ∉ segment)
    (hothers : ∀ segment ∈ others, '/' ∉ segment ∧ '?' ∉ segment)
    (h : String.ofList (joined segments) ++ Url.queryText query =
      String.ofList (joined others) ++ Url.queryText other) :
    segments = others ∧ query = other := by
  have htext : joined segments ++ (Url.queryText query).toList =
      joined others ++ (Url.queryText other).toList := by
    simpa only [String.toList_append, String.toList_ofList] using congrArg String.toList h
  have hsplit := congrArg (Url.splitAt (· = '?')) htext
  rw [Url.splitAt_joined fun segment hmem => (hsegments segment hmem).2,
    Url.splitAt_joined fun segment hmem => (hothers segment hmem).2] at hsplit
  obtain ⟨hjoined, hquery⟩ := Prod.mk.inj hsplit
  constructor
  · have hpieces := congrArg (Text.pieces '/') hjoined
    rw [← List.nil_append (joined segments), ← List.nil_append (joined others),
      pieces_joined (fun segment hmem => (hsegments segment hmem).1) List.not_mem_nil,
      pieces_joined (fun segment hmem => (hothers segment hmem).1) List.not_mem_nil] at hpieces
    exact (List.cons.inj hpieces).2
  · rw [← Effect.behind?_queryText query, hquery, Effect.behind?_queryText]

def kept (id : List Char) : List Char := Url.unmarked (Url.ending id)

def pathPart (text : List Char) : List Char := (Url.splitAt (· = '?') text).1

def queryPart? (text : List Char) : Option (List Char) :=
  Url.behind? '?' (Url.splitAt (· = '?') text).2

theorem parts_cases (text : List Char) :
    (queryPart? text = none ∧ text = pathPart text) ∨
      ∃ query, queryPart? text = some query ∧ text = pathPart text ++ '?' :: query := by
  have hparts := Url.splitAt_parts (· = '?') text
  have hhead := Url.stops_head_splitAt (· = '?') text
  rw [queryPart?, pathPart]
  cases hrest : (Url.splitAt (· = '?') text).2 with
  | nil =>
    rw [hrest, List.append_nil] at hparts
    exact .inl ⟨rfl, hparts.symm⟩
  | cons first query =>
    rw [hrest] at hparts hhead
    obtain rfl : first = '?' := of_decide_eq_true (hhead first rfl)
    exact .inr ⟨query, rfl, hparts.symm⟩

theorem parts_inj (hpath : pathPart a = pathPart b) (hquery : queryPart? a = queryPart? b) : a = b := by
  rcases parts_cases a with ⟨ha, haeq⟩ | ⟨query, ha, haeq⟩ <;>
    rcases parts_cases b with ⟨hb, hbeq⟩ | ⟨other, hb, hbeq⟩ <;> rw [ha, hb] at hquery
  · rw [haeq, hpath, ← hbeq]
  · exact absurd hquery (Option.some_ne_none other).symm
  · exact absurd hquery (Option.some_ne_none query)
  · rw [haeq, hpath, Option.some.inj hquery, ← hbeq]

theorem pathPart_starts (text : List Char) : pathPart text <+: text :=
  ⟨_, Url.splitAt_parts (· = '?') text⟩

theorem queryPart_ends {query : List Char} (h : queryPart? text = some query) : query <:+ text := by
  rcases parts_cases text with ⟨hnone, -⟩ | ⟨found, hsome, htext⟩
  · exact absurd (h.symm.trans hnone) (Option.some_ne_none query)
  · obtain rfl := Option.some.inj (h.symm.trans hsome)
    exact ⟨pathPart text ++ ['?'], by rw [← List.append_cons, ← htext]⟩

def spelling (directory id : List Char) : List (List Char) × Option (List Char) :=
  if '?' ∈ directory then ([], some (encode staysInWebQuery (kept id)))
  else
    ((resolve (above directory) (segmentsOf (pathPart (kept id)))).map (encode staysInPath),
      (queryPart? (kept id)).map (encode staysInWebQuery))

def targetIn (directory id : List Char) : String :=
  let tail := Url.Tail.read (directory ++ '/' :: Url.ending id)
  String.ofList (readPath tail.path) ++
    Url.queryText (tail.query.map fun query => String.ofList (encode staysInWebQuery query))

theorem splitAt_below {stops : Char → Bool} (h : ∀ d ∈ directory, stops d = false)
    (hslash : stops '/' = false) (text : List Char) :
    Url.splitAt stops (directory ++ '/' :: text) =
      (directory ++ '/' :: (Url.splitAt stops text).1, (Url.splitAt stops text).2) := by
  have hfront : ∀ d ∈ directory ++ ['/'], stops d = false := by
    intro d hd
    rcases List.mem_append.mp hd with hd | hd
    · exact h d hd
    · rw [List.mem_singleton.mp hd, hslash]
  rw [List.append_cons, Url.splitAt_append_of_notMem text hfront, ← List.append_cons]

theorem unmarked_below (hmark : '#' ∉ directory) (id : List Char) :
    Url.unmarked (directory ++ '/' :: Url.ending id) = directory ++ '/' :: kept id := by
  rw [Url.unmarked, splitAt_below (Url.ne_of_notMem hmark) (by decide)]
  rfl

theorem targetIn_of_path (hmark : '#' ∉ directory) (hquery : '?' ∉ directory)
    (hslash : ∀ c ∈ directory.head?, isSlash c = true) (id : List Char) :
    targetIn directory id = String.ofList (joined (spelling directory id).1) ++
      Url.queryText ((spelling directory id).2.map String.ofList) := by
  have htail := Url.tail_eq (directory ++ '/' :: Url.ending id)
  rw [unmarked_below hmark, splitAt_below (Url.ne_of_notMem hquery) (by decide)] at htail
  obtain ⟨hpath, hbehind⟩ := Prod.mk.inj htail
  simp only [targetIn, hpath, hbehind, readPath_append hslash, spelling, if_neg hquery, Option.map_map]
  rfl

theorem targetIn_of_query {before query : List Char} (hmark : '#' ∉ before ++ '?' :: query)
    (hbefore : '?' ∉ before) (id : List Char) :
    targetIn (before ++ '?' :: query) id = String.ofList (readPath before) ++
      "?" ++ String.ofList (encode staysInWebQuery (query ++ ['/'])) ++
        String.ofList (encode staysInWebQuery (kept id)) := by
  have htail := Url.tail_eq (before ++ '?' :: query ++ '/' :: Url.ending id)
  have hsplit : Url.splitAt (· = '?') (before ++ '?' :: (query ++ '/' :: kept id)) =
      (before, '?' :: (query ++ '/' :: kept id)) :=
    Url.splitAt_append (Url.ne_of_notMem hbefore) (by rintro c ⟨⟩; rfl)
  have hrest : before ++ '?' :: query ++ '/' :: kept id = before ++ '?' :: (query ++ '/' :: kept id) :=
    List.append_assoc _ _ _
  rw [unmarked_below hmark, hrest, hsplit] at htail
  obtain ⟨hpath, hbehind⟩ := Prod.mk.inj htail
  have hwritten : Url.behind? '?' ('?' :: (query ++ '/' :: kept id)) = some (query ++ ['/'] ++ kept id) := by
    rw [← List.append_cons]
    rfl
  simp only [targetIn, hpath, hbehind, hwritten, Option.map_some, Url.queryText, encode_append,
    String.ofList_append, String.append_assoc]

theorem notMem_of_mem_spelling (h : segment ∈ (spelling directory id).1) : '/' ∉ segment ∧ '?' ∉ segment := by
  rw [spelling] at h
  split_ifs at h
  · exact absurd h List.not_mem_nil
  · obtain ⟨bare, hbare, rfl⟩ := List.mem_map.mp h
    have hslash : '/' ∉ bare := by
      rcases mem_resolve hbare with rfl | habove | hid
      · exact List.not_mem_nil
      · exact slash_notMem_of_mem_above habove
      · exact Text.notMem_of_mem_pieces hid
    exact ⟨notMem_encode (by decide) fun hmem => absurd hmem hslash,
      notMem_encode (by decide) fun _ => by decide⟩

theorem targetIn_eq_iff (hmark : '#' ∉ directory)
    (hhead : ∀ c ∈ directory.head?, isSlash c = true ∨ Url.endsPath c = true) :
    targetIn directory a = targetIn directory b ↔ spelling directory a = spelling directory b := by
  by_cases hquery : '?' ∈ directory
  · obtain ⟨before, query, rfl, hbefore⟩ := List.eq_append_cons_of_mem hquery
    rw [targetIn_of_query hmark hbefore, targetIn_of_query hmark hbefore, spelling, spelling, if_pos hquery,
      if_pos hquery, ← String.toList_inj]
    simp only [String.toList_append, String.toList_ofList, List.append_cancel_left_eq, Prod.mk.injEq,
      true_and, Option.some.injEq]
  · have hslash : ∀ c ∈ directory.head?, isSlash c = true := by
      intro c hc
      refine (hhead c hc).resolve_right fun hends => ?_
      have hmem : c ∈ directory := List.mem_of_mem_head? hc
      have hsign : c = '?' ∨ c = '#' := by simpa [Url.endsPath] using hends
      rcases hsign with rfl | rfl
      · exact hquery hmem
      · exact hmark hmem
    rw [targetIn_of_path hmark hquery hslash, targetIn_of_path hmark hquery hslash]
    refine ⟨fun htarget => ?_, fun hspelling => by rw [hspelling]⟩
    obtain ⟨hsegments, hqueries⟩ :=
      target_inj (fun _ => notMem_of_mem_spelling) (fun _ => notMem_of_mem_spelling) htarget
    exact Prod.ext hsegments (Option.map_injective (fun _ _ => String.ofList_injective) hqueries)

structure IsVerbatim (id : List Char) : Prop where
  whole : ∀ c ∈ id, c ≠ '#' ∧ Url.isBreak c = false
  ended : ∀ c ∈ id.getLast?, ' ' < c
  unspelled : HoldsNoOctet id
  unturned : '\\' ∉ pathPart id
  undotted : ∀ segment ∈ Text.pieces '/' (pathPart id),
    isDot segment = false ∧ isDotDot segment = false

instance (id : List Char) : Decidable (IsVerbatim id) :=
  decidable_of_iff (id.all (fun c => c ≠ '#' && !Url.isBreak c) ∧ id.getLast?.all (' ' < ·) ∧
      HoldsNoOctet id ∧ '\\' ∉ pathPart id ∧
      (Text.pieces '/' (pathPart id)).all fun segment => !isDot segment && !isDotDot segment)
    ⟨fun ⟨hwhole, hended, hunspelled, hunturned, hundotted⟩ =>
      ⟨by simpa using hwhole, by simpa [Option.all_eq_true] using hended, hunspelled, hunturned,
        by simpa using hundotted⟩,
    fun h =>
      ⟨by simpa using h.whole, by simpa [Option.all_eq_true] using h.ended, h.unspelled, h.unturned,
        by simpa using h.undotted⟩⟩

theorem IsVerbatim.kept_eq (h : IsVerbatim id) : Http.kept id = id := by
  have hlast : id.rdropWhile Url.isInvisible = id := by
    refine List.rdropWhile_eq_self_iff.mpr fun hsome => ?_
    have hvisible := h.ended _ (List.getLast?_eq_getLast_of_ne_nil hsome)
    simp [Url.isInvisible_of_visible hvisible]
  have hending : Url.ending id = id := by
    rw [Url.ending, hlast]
    exact List.filter_eq_self.mpr fun c hc => by rw [(h.whole c hc).2]; rfl
  rw [Http.kept, hending]
  exact List.takeWhile_eq_self_iff.mpr fun c hc => by simp [(h.whole c hc).1]

theorem IsVerbatim.resolve_path (h : IsVerbatim id) (before : List (List Char)) :
    resolve before (segmentsOf (pathPart id)) =
      before.reverse ++ Text.pieces '/' (pathPart id) := by
  have hupright : (pathPart id).map Http.upright = pathPart id := by
    refine (List.map_congr_left fun c hc => ?_).trans (List.map_id _)
    have hback : c ≠ '\\' := fun heq => h.unturned (heq ▸ hc)
    by_cases hslash : c = '/'
    · rw [hslash]
      rfl
    · simp [Http.upright, isSlash, hslash, hback]
  rw [segmentsOf, hupright]
  exact resolve_of_undotted h.undotted

theorem spelling_injective (ha : IsVerbatim a) (hb : IsVerbatim b)
    (h : spelling directory a = spelling directory b) : a = b := by
  rw [spelling, spelling, ha.kept_eq, hb.kept_eq] at h
  split_ifs at h
  · exact encode_injective ha.unspelled hb.unspelled (Option.some.inj (Prod.mk.inj h).2)
  · obtain ⟨hpath, hquery⟩ := Prod.mk.inj h
    have hpaths : pathPart a = pathPart b := by
      rw [ha.resolve_path, hb.resolve_path, List.map_append, List.map_append,
        List.append_cancel_left_eq] at hpath
      exact encode_injective (ha.unspelled.of_prefix (pathPart_starts a))
        (hb.unspelled.of_prefix (pathPart_starts b)) (encode_eq_of_pieces (by decide) hpath)
    refine parts_inj hpaths ?_
    cases hqa : queryPart? a with
    | none =>
      rw [hqa, Option.map_none] at hquery
      exact (Option.map_eq_none_iff.mp hquery.symm).symm
    | some query =>
      rw [hqa, Option.map_some] at hquery
      obtain ⟨other, hqb, hwritten⟩ := Option.map_eq_some_iff.mp hquery.symm
      rw [hqb, encode_injective (ha.unspelled.of_suffix (queryPart_ends hqa))
        (hb.unspelled.of_suffix (queryPart_ends hqb)) hwritten.symm]

def Endpoint.appsDirectory (s : Endpoint) : List Char :=
  Url.behindHost (s.apiRoot.toList ++ '/' :: Effect.appsPath.toList)

theorem Endpoint.mark_notMem_appsDirectory {s : Endpoint} (h : '#' ∉ s.url.toList) :
    '#' ∉ s.appsDirectory := by
  intro hmem
  have hbase : '#' ∉ s.base := by
    rw [base, List.mem_reverse]
    exact fun hbase => h (List.mem_reverse.mp ((List.dropWhile_suffix _).subset hbase))
  rcases List.mem_append.mp (Url.mem_of_mem_behindHost hmem) with hroot | happs
  · rw [apiRoot, String.toList_ofList] at hroot
    split_ifs at hroot
    · exact hbase hroot
    · exact (List.mem_append.mp hroot).elim hbase (by decide)
  · exact absurd happs (by decide)

end Http

namespace Effect

open Http

theorem target_of_deletion {s : Endpoint} {id : AppId} {r : Request}
    (h : (deleteApp id).request (.of s) = .ok r) : r.url.target = targetIn s.appsDirectory id.text.toList := by
  obtain ⟨u, hread, -, -, hsent⟩ := request_eq_ok h
  have haddress : (Client.of s).url (deleteApp id).path =
      String.ofList (s.apiRoot.toList ++ "/multiclusterapp".toList ++ 's' :: '/' :: id.text.toList) := by
    rw [← String.toList_inj, String.toList_ofList, Client.url, dropWhile_path]
    simp only [path.eq_def, appPath, String.toList_append, String.toList_ofList, List.append_assoc]
    rfl
  have hdirectory : Url.behindHost (s.apiRoot.toList ++ "/multiclusterapp".toList ++ ['s']) =
      s.appsDirectory := by
    rw [List.append_assoc]
    rfl
  rw [haddress] at hread
  obtain ⟨hpath, hquery⟩ := Url.read_append (by decide) (by decide) hread
  rw [hdirectory] at hpath hquery
  rw [hsent]
  show u.path ++ Url.queryText u.query = _
  rw [hpath, hquery]
  rfl

theorem deletions_share_target_iff {s : Endpoint} (hserver : '#' ∉ s.url.toList) {a b : AppId}
    {r₁ r₂ : Request} (h₁ : (deleteApp a).request (.of s) = .ok r₁)
    (h₂ : (deleteApp b).request (.of s) = .ok r₂) :
    (r₁.url.target = r₂.url.target ↔
      spelling s.appsDirectory a.text.toList = spelling s.appsDirectory b.text.toList) ∧
    (IsVerbatim a.text.toList → IsVerbatim b.text.toList → a ≠ b → r₁.url.target ≠ r₂.url.target) := by
  have hmark : '#' ∉ s.appsDirectory := s.mark_notMem_appsDirectory hserver
  have hshared : r₁.url.target = r₂.url.target ↔
      spelling s.appsDirectory a.text.toList = spelling s.appsDirectory b.text.toList := by
    rw [target_of_deletion h₁, target_of_deletion h₂]
    exact targetIn_eq_iff hmark Url.head_behindHost
  refine ⟨hshared, fun ha hb hne htarget => hne ?_⟩
  have htext : a.text.toList = b.text.toList := spelling_injective ha hb (hshared.mp htarget)
  exact congrArg AppId.mk (String.toList_inj.mp htext)

open Http.Sample in
theorem deletions_share_target_iff_of_signs :
    let first := deleteApp ⟨"shop ä?x=.."⟩
    let second := deleteApp ⟨"shop ä/x=.."⟩
    let u : Url := { url "/v3/multiclusterapps/shop%20%C3%A4" with query := some "x=.." }
    let v : Url := url "/v3/multiclusterapps/shop%20%C3%A4/x=.."
    first.request (.of server) = .ok (requestTo u first) ∧
      second.request (.of server) = .ok (requestTo v second) ∧ u.target ≠ v.target := by
  intro first second u v
  have hfirst : first.request (.of server) = .ok (requestTo u first) :=
    request_of_read (by decide +kernel) (by decide +kernel)
  have hsecond : second.request (.of server) = .ok (requestTo v second) :=
    request_of_read (by decide +kernel) (by decide +kernel)
  refine ⟨hfirst, hsecond, ?_⟩
  exact (deletions_share_target_iff (by decide +kernel) hfirst hsecond).2 (by decide +kernel) (by decide +kernel)
    (by decide +kernel)

def deletionTarget? (s : Endpoint) (id : String) : Option String :=
  ((deleteApp ⟨id⟩).request (.of s)).toOption.map fun r => r.url.target

open Http.Sample in
theorem other_ids_share_targets :
    deletionTarget? server "mcapp-1" = some "/v3/multiclusterapps/mcapp-1" ∧
    (∀ id ∈ ["./mcapp-1", "x/../mcapp-1", ".\\mcapp-1", "mcapp-1#x", "mcapp-1 ", "mcapp\t-1"],
      id ≠ "mcapp-1" ∧ deletionTarget? server id = some "/v3/multiclusterapps/mcapp-1") ∧
    (∀ id ∈ ["mcapp 1", "mcapp%201"], deletionTarget? server id = some "/v3/multiclusterapps/mcapp%201") ∧
    deletionTarget? server "../templates/shop" = some "/v3/templates/shop" ∧
    ∀ id ∈ ["mcapp-1", "mcapp-2"], deletionTarget? (.ofUrl "http://[::1]:8080/#") id = some "/" := by
  decide +kernel

end Effect

end MultiCluster
