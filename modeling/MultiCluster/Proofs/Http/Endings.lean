import MultiCluster.Proofs.Http.Address
import MultiCluster.Proofs.Text.Trim

namespace MultiCluster.Http

variable {before segments rest : List (List Char)} {segment directory : List Char} {c : Char}

def climb (before : List (List Char)) : List (List Char) → List (List Char)
  | [] => before
  | segment :: rest =>
    if isDotDot segment then climb (before.drop 1) rest
    else if isDot segment then climb before rest
    else climb (segment :: before) rest

theorem resolve_append (hsome : rest ≠ []) :
    resolve before (segments ++ rest) = resolve (climb before segments) rest := by
  induction segments generalizing before with
  | nil => rfl
  | cons segment others ih =>
    have hmore : others ++ rest ≠ [] := by simp [hsome]
    rw [List.cons_append, resolve.eq_3 _ _ _ hmore, climb, ih, ih, ih]
    split_ifs <;> rfl

theorem mem_climb (h : segment ∈ climb before segments) : segment ∈ before ∨ segment ∈ segments := by
  induction segments generalizing before with
  | nil => exact .inl h
  | cons first rest ih =>
    rw [climb] at h
    split_ifs at h
    · exact (ih h).imp List.mem_of_mem_drop (List.mem_cons_of_mem first)
    · exact (ih h).imp_right (List.mem_cons_of_mem first)
    · rcases ih h with hbefore | hrest
      · rcases List.mem_cons.mp hbefore with rfl | hbefore
        · exact .inr List.mem_cons_self
        · exact .inl hbefore
      · exact .inr (List.mem_cons_of_mem first hrest)

theorem mem_resolve (h : segment ∈ resolve before segments) :
    segment = [] ∨ segment ∈ before ∨ segment ∈ segments := by
  rcases List.eq_nil_or_concat segments with rfl | ⟨inner, last, rfl⟩
  · rw [resolve, List.mem_reverse] at h
    exact .inr (.inl h)
  · have hinner : segment ∈ climb before inner → segment ∈ before ∨ segment ∈ inner ++ [last] :=
      fun hmem => (mem_climb hmem).imp_right (List.mem_append_left [last])
    rw [List.concat_eq_append] at h ⊢
    rw [resolve_append (List.cons_ne_nil last []), resolve] at h
    split_ifs at h <;> rcases List.mem_append.mp h with hclimbed | hlast
    · exact .inr (hinner (List.mem_of_mem_drop (List.mem_reverse.mp hclimbed)))
    · exact .inl (List.mem_singleton.mp hlast)
    · exact .inr (hinner (List.mem_reverse.mp hclimbed))
    · exact .inl (List.mem_singleton.mp hlast)
    · exact .inr (hinner (List.mem_reverse.mp hclimbed))
    · exact .inr (.inr (List.mem_append_right inner hlast))

def upright (c : Char) : Char := if isSlash c then '/' else c

def segmentsOf (path : List Char) : List (List Char) := Text.pieces '/' (path.map upright)

def above : List Char → List (List Char)
  | [] => []
  | _ :: inner => climb [] (segmentsOf inner)

theorem slash_notMem_of_mem_above (h : segment ∈ above directory) : '/' ∉ segment := by
  cases directory with
  | nil => exact absurd h List.not_mem_nil
  | cons c inner =>
    rcases mem_climb h with hnone | hinner
    · exact absurd hnone List.not_mem_nil
    · exact Text.notMem_of_mem_pieces hinner

theorem pathOf_eq (segments : List (List Char)) :
    pathOf segments = joined ((resolve [] segments).map (encode staysInPath)) := by
  rw [pathOf, joined, List.flatMap_map]

theorem readPath_append (h : ∀ c ∈ directory.head?, isSlash c = true) (path : List Char) :
    readPath (directory ++ '/' :: path) =
      joined ((resolve (above directory) (segmentsOf path)).map (encode staysInPath)) := by
  cases directory with
  | nil => exact pathOf_eq (segmentsOf path)
  | cons c inner =>
    have hrelative : readPath (c :: inner ++ '/' :: path) = pathOf (segmentsOf (inner ++ '/' :: path)) := by
      simp only [readPath.eq_def, List.cons_append, h c rfl, ↓reduceIte]
      rfl
    have hsegments : segmentsOf (inner ++ '/' :: path) = segmentsOf inner ++ segmentsOf path := by
      rw [segmentsOf, List.map_append, List.map_cons]
      exact Text.pieces_append '/' _ _
    have hsome : segmentsOf path ≠ [] := Text.pieces_ne_nil _ _
    rw [hrelative, hsegments, pathOf_eq, resolve_append hsome, above]

namespace Url

def ending (text : List Char) : List Char := (text.rdropWhile isInvisible).filter (!isBreak ·)

theorem ending_slash (text : List Char) : ending ('/' :: text) = '/' :: ending text := by
  have hslash : ('/' :: text).rdropWhile isInvisible = '/' :: text.rdropWhile isInvisible :=
    Text.rdropWhile_append_cons [] text (by decide)
  rw [ending, hslash, List.filter_cons_of_pos (by decide), ending]

theorem cleaned_append (front text : List Char) (hc : ' ' < c) :
    cleaned (front ++ c :: text) = (front.dropWhile isInvisible).filter (!isBreak ·) ++ c :: ending text := by
  have hvisible := isInvisible_of_visible hc
  rw [cleaned_eq, Text.dropWhile_append_cons _ _ hvisible, Text.rdropWhile_append_cons _ _ hvisible,
    List.filter_append, List.filter_cons_of_pos (by rw [isBreak_of_visible hc]; rfl), ending]

theorem mem_of_mem_cleaned {text : List Char} (h : c ∈ cleaned text) : c ∈ text := by
  rw [cleaned_eq] at h
  have htrimmed := (List.rdropWhile_prefix _ _).subset (List.mem_of_mem_filter h)
  exact (List.dropWhile_suffix _).subset htrimmed

theorem cutScheme_eq_some {text scheme after : List Char} (h : cutScheme text = some (scheme, after)) :
    ∃ spelled, text = spelled ++ ':' :: after ∧ '/' ∉ spelled := by
  unfold cutScheme at h
  split at h
  · rename_i first others rest hcut
    split_ifs at h with hscheme
    obtain ⟨-, rfl⟩ := Prod.mk.inj (Option.some.inj h)
    obtain ⟨hletter, hothers⟩ := Bool.and_eq_true_iff.mp hscheme
    refine ⟨first :: others, (Text.cut_eq_some_iff.mp hcut).1, fun hslash => ?_⟩
    rcases List.mem_cons.mp hslash with rfl | hslash
    · exact absurd hletter (by decide)
    · exact absurd (List.all_eq_true.mp hothers _ hslash) (by decide)
  · exact absurd h (by simp)

theorem concat_of_cutScheme {front scheme after : List Char} (hc : c ≠ ':')
    (h : cutScheme (front ++ [c]) = some (scheme, after)) : ∃ inner, after = inner ++ [c] := by
  obtain ⟨spelled, heq, -⟩ := cutScheme_eq_some h
  have hlast := congrArg List.getLast? heq
  rcases List.eq_nil_or_concat after with rfl | ⟨inner, last, rfl⟩
  · exact absurd (by simpa using hlast) hc
  · rw [List.concat_eq_append, ← List.cons_append, ← List.append_assoc, List.getLast?_concat,
      List.getLast?_concat] at hlast
    exact ⟨inner, by rw [List.concat_eq_append, Option.some.inj hlast]⟩

theorem cutScheme_append (front text : List Char) :
    cutScheme (front ++ '/' :: text) =
      (cutScheme front).map fun (scheme, after) => (scheme, after ++ '/' :: text) := by
  by_cases hcolon : ':' ∈ front
  · obtain ⟨spelled, after, rfl, hspelled⟩ := List.eq_append_cons_of_mem hcolon
    have hlong : Text.cut ':' (spelled ++ ':' :: after ++ '/' :: text) = some (spelled, after ++ '/' :: text) :=
      Text.cut_eq_some_iff.mpr ⟨by simp, hspelled⟩
    have hshort : Text.cut ':' (spelled ++ ':' :: after) = some (spelled, after) :=
      Text.cut_eq_some_iff.mpr ⟨rfl, hspelled⟩
    rw [cutScheme, cutScheme, hlong, hshort]
    cases spelled with
    | nil => rfl
    | cons first others =>
      simp only
      split_ifs <;> rfl
  -- A colon can only be behind the slash, where it ends no scheme.
  · have hshort : cutScheme front = none := by rw [cutScheme, Text.cut_eq_none_iff.mpr hcolon]
    rw [hshort, Option.map_none]
    refine Option.eq_none_iff_forall_ne_some.mpr fun (scheme, after) hfound => ?_
    obtain ⟨spelled, heq, hslash⟩ := cutScheme_eq_some hfound
    rcases List.append_eq_append_iff.mp heq with ⟨more, rfl, hrest⟩ | ⟨more, rfl, hrest⟩
    · cases more with
      | nil => exact absurd (List.cons.inj hrest).1 (by decide)
      | cons d more =>
        obtain ⟨rfl, -⟩ := List.cons.inj hrest
        exact hslash (by simp)
    · cases more with
      | nil => exact absurd (List.cons.inj hrest).1 (by decide)
      | cons d more =>
        obtain ⟨rfl, -⟩ := List.cons.inj hrest
        exact hcolon (by simp)

section

variable (stops : Char → Bool) (text : List Char)

theorem splitAt_parts : (splitAt stops text).1 ++ (splitAt stops text).2 = text :=
  List.takeWhile_append_dropWhile

theorem not_stops_of_mem_splitAt : ∀ d ∈ (splitAt stops text).1, stops d = false := fun d hd => by
  simpa using List.mem_takeWhile_imp hd

theorem stops_head_splitAt : ∀ d ∈ (splitAt stops text).2.head?, stops d = true := fun d hd => by
  have hhead := List.head?_dropWhile_not (!stops ·) text
  rw [splitAt] at hd
  rw [hd] at hhead
  simpa using hhead

variable {stops}

theorem splitAt_append_of_notMem {front : List Char} (h : ∀ d ∈ front, stops d = false) :
    splitAt stops (front ++ text) = (front ++ (splitAt stops text).1, (splitAt stops text).2) := by
  have hbefore : ∀ d ∈ front ++ (splitAt stops text).1, stops d = false := fun d hd =>
    (List.mem_append.mp hd).elim (h d) (not_stops_of_mem_splitAt stops text d)
  rw [← splitAt_append hbefore (stops_head_splitAt stops text), List.append_assoc, splitAt_parts]

theorem splitAt_append_cons (front : List Char) (hc : stops c = true) :
    splitAt stops (front ++ c :: text) = ((splitAt stops front).1, (splitAt stops front).2 ++ c :: text) := by
  have hhead : ∀ d ∈ ((splitAt stops front).2 ++ c :: text).head?, stops d = true := by
    have hfront := stops_head_splitAt stops front
    cases hrest : (splitAt stops front).2 with
    | nil =>
      rintro d ⟨⟩
      exact hc
    | cons first others =>
      rw [hrest] at hfront
      exact hfront
  rw [← splitAt_append (not_stops_of_mem_splitAt stops front) hhead, ← List.append_assoc, splitAt_parts]

end

def unmarked (text : List Char) : List Char := (splitAt (· = '#') text).1

theorem tail_eq (text : List Char) :
    ((Tail.read text).path, (Tail.read text).query) =
      ((splitAt (· = '?') (unmarked text)).1, behind? '?' (splitAt (· = '?') (unmarked text)).2) := by
  obtain ⟨path, rest, hsplit⟩ : ∃ path rest, splitAt endsPath text = (path, rest) := ⟨_, _, rfl⟩
  have hpath := not_stops_of_mem_splitAt endsPath text
  have hrest := stops_head_splitAt endsPath text
  have htext := splitAt_parts endsPath text
  rw [hsplit] at hpath hrest htext
  have hends : ∀ d ∈ path, decide (d = '?') = false ∧ decide (d = '#') = false := fun d hd =>
    Bool.or_eq_false_iff.mp (hpath d hd)
  have hquery : ∀ d ∈ (unmarked rest).head?, decide (d = '?') = true := by
    intro d hd
    cases rest with
    | nil => exact absurd hd (by simp [unmarked, splitAt])
    | cons first others =>
      have hfirst : first = '?' ∨ first = '#' := by simpa [endsPath] using hrest first rfl
      rcases hfirst with rfl | rfl
      · obtain rfl : '?' = d := by simpa [unmarked, splitAt] using hd
        rfl
      · exact absurd hd (by simp [unmarked, splitAt])
  have hunmarked : unmarked text = path ++ unmarked rest := by
    rw [unmarked, ← htext, splitAt_append_of_notMem _ fun d hd => (hends d hd).2, unmarked]
  rw [hunmarked, splitAt_append (fun d hd => (hends d hd).1) hquery, Tail.read, hsplit]
  rfl

def behindHost (address : List Char) : List Char :=
  match cutScheme (cleaned address) with
  | some (_, after) => (splitAt (fun d => isSlash d || endsPath d) (after.dropWhile isSlash)).2
  | none => []

theorem mem_of_mem_behindHost {address : List Char} (h : c ∈ behindHost address) : c ∈ address := by
  unfold behindHost at h
  split at h
  · rename_i scheme after hcut
    obtain ⟨spelled, hcleaned, -⟩ := cutScheme_eq_some hcut
    have hafter : c ∈ after :=
      (List.dropWhile_suffix _).subset ((List.dropWhile_suffix _).subset h)
    exact mem_of_mem_cleaned (hcleaned ▸ List.mem_append_right spelled (List.mem_cons_of_mem ':' hafter))
  · exact absurd h List.not_mem_nil

theorem head_behindHost {address : List Char} :
    ∀ d ∈ (behindHost address).head?, isSlash d = true ∨ endsPath d = true := by
  intro d hd
  unfold behindHost at hd
  split at hd
  · exact Bool.or_eq_true_iff.mp (stops_head_splitAt _ _ d hd)
  · exact absurd hd (by simp)

theorem read_append {front text : List Char} {u : Url} (hc : isInner c = true) (hcolon : c ≠ ':')
    (h : read (String.ofList (front ++ c :: '/' :: text)) = .ok u) :
    let tail := Tail.read (behindHost (front ++ [c]) ++ '/' :: ending text)
    u.path = String.ofList (readPath tail.path) ∧
      u.query = tail.query.map fun query => String.ofList (encode staysInWebQuery query) := by
  have hvisible := visible_of_isInner hc
  have hlong : cleaned (front ++ c :: '/' :: text) = cleaned (front ++ [c]) ++ '/' :: ending text := by
    rw [cleaned_append _ _ hvisible, cleaned_append _ _ hvisible, ending_slash, List.append_assoc]
    rfl
  rw [read, String.toList_ofList, hlong, cutScheme_append] at h
  cases hcut : cutScheme (cleaned (front ++ [c])) with
  | none => exact absurd h (by simp [hcut])
  | some found =>
    obtain ⟨scheme, after⟩ := found
    obtain ⟨inner, hafter⟩ : ∃ inner, after = inner ++ [c] := by
      rw [cleaned_append front [] hvisible] at hcut
      exact concat_of_cutScheme hcolon hcut
    have hslash : isSlash c = false := Bool.eq_false_iff.mpr (not_isSlash_of_isInner hc)
    have hshorter : after.dropWhile isSlash = inner.dropWhile isSlash ++ [c] := by
      rw [hafter, Text.dropWhile_append_cons _ _ hslash]
    have hlonger : (after ++ '/' :: ending text).dropWhile isSlash =
        after.dropWhile isSlash ++ '/' :: ending text := by
      rw [hshorter, hafter, List.append_assoc, List.append_assoc]
      exact Text.dropWhile_append_cons inner _ hslash
    have hbehind : behindHost (front ++ [c]) =
        (splitAt (fun d => isSlash d || endsPath d) (after.dropWhile isSlash)).2 := by
      rw [behindHost, hcut]
    simp only [hcut, Option.map_some] at h
    cases husual : usualNumber? scheme with
    | none =>
      simp only [husual] at h
      obtain ⟨_, -, hother⟩ := Except.exists_of_bind_eq_ok h
      exact absurd hother (by simp)
    | some usual =>
      simp only [husual] at h
      obtain ⟨found, hfound, hweb⟩ := Except.exists_of_bind_eq_ok h
      obtain rfl : found = u := by
        split_ifs at hweb
        exact Except.ok.inj hweb
      rw [readUsual, hlonger, splitAt_append_cons _ _ rfl, ← hbehind] at hfound
      obtain ⟨_, -, rfl⟩ := Except.exists_of_map_eq_ok hfound
      exact ⟨rfl, rfl⟩

end Url

end MultiCluster.Http
