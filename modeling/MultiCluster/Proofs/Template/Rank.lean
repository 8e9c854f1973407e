import Mathlib.Data.List.Lex
import Mathlib.Data.Prod.Lex
import Mathlib.Data.String.Basic
import Mathlib.Data.Sum.Order
import Mathlib.Order.Compare
import Mathlib.Order.WithBot
import MultiCluster.Proofs.Template.Precedence
import MultiCluster.Proofs.Text.Trim

namespace MultiCluster

section Comparison

variable {α β γ : Type} [LinearOrder α] [LinearOrder β] {o p : Ordering}

theorem compares_compare (a b : α) : (Ord.compare a b).Compares a b := by
  rw [← cmp_eq_compare]
  exact cmp_compares a b

theorem compares_cons {x y : α} {xs ys : List α} (ho : o.Compares x y)
    (hp : p.Compares xs ys) : (o.then p).Compares (x :: xs) (y :: ys) := by
  cases o with
  | lt => exact List.cons_lt_cons_iff.mpr (.inl ho)
  | gt => exact List.cons_lt_cons_iff.mpr (.inl ho)
  | eq =>
    obtain rfl : x = y := ho
    cases p with
    | lt => exact List.cons_lt_cons_iff.mpr (.inr ⟨rfl, hp⟩)
    | gt => exact List.cons_lt_cons_iff.mpr (.inr ⟨rfl, hp⟩)
    | eq => exact congrArg (List.cons x) hp

theorem compares_toLex {a c : α} {b d : β} (ho : o.Compares a c) (hp : p.Compares b d) :
    (o.then p).Compares (toLex (a, b)) (toLex (c, d)) := by
  cases o with
  | lt => exact Prod.Lex.toLex_lt_toLex.mpr (.inl ho)
  | gt => exact Prod.Lex.toLex_lt_toLex.mpr (.inl ho)
  | eq =>
    obtain rfl : a = c := ho
    cases p with
    | lt => exact Prod.Lex.toLex_lt_toLex.mpr (.inr ⟨rfl, hp⟩)
    | gt => exact Prod.Lex.toLex_lt_toLex.mpr (.inr ⟨rfl, hp⟩)
    | eq => exact congrArg (fun e => toLex (a, e)) hp

theorem compareLex_compares {compare : γ → γ → Ordering} {rank : γ → α}
    (h : ∀ a b, (compare a b).Compares (rank a) (rank b)) (as bs : List γ) :
    (List.compareLex compare as bs).Compares (as.map rank) (bs.map rank) := by
  induction as generalizing bs with
  | nil =>
    cases bs with
    | nil => exact rfl
    | cons b bs => exact List.nil_lt_cons _ _
  | cons a as ih =>
    cases bs with
    | nil => exact List.nil_lt_cons _ _
    | cons b bs =>
      rw [List.compareLex_cons_cons]
      exact compares_cons (h a b) (ih bs)

theorem compares_of_strictMono {δ : Type} [Preorder δ] {a b : α} {f : α → δ} (hf : StrictMono f)
    (h : o.Compares a b) : o.Compares (f a) (f b) := by
  cases o with
  | lt => exact hf h
  | eq => exact congrArg f h
  | gt => exact hf h

end Comparison

def PrePart.rank : PrePart → ℕ ⊕ₗ String
  | .number n => toLex (.inl n)
  | .word s => toLex (.inr s)

theorem PrePart.compares_rank (a b : PrePart) : (a.compare b).Compares a.rank b.rank := by
  have hnumber : StrictMono fun n : ℕ => (toLex (.inl n) : ℕ ⊕ₗ String) := Sum.Lex.inl_strictMono
  have hword : StrictMono fun s : String => (toLex (.inr s) : ℕ ⊕ₗ String) := Sum.Lex.inr_strictMono
  cases a with
  | number m =>
    cases b with
    | number n =>
      have hlifted := compares_of_strictMono hnumber (compares_compare m n)
      exact hlifted
    | word t => exact Sum.Lex.inl_lt_inr m t
  | word s =>
    cases b with
    | number n => exact Sum.Lex.inl_lt_inr n s
    | word t =>
      have hlifted := compares_of_strictMono hword (compares_compare s t)
      exact hlifted

namespace Version

abbrev Rank := List ℕ ×ₗ WithTop (List (ℕ ⊕ₗ String))

def preRank (pre : Option (List PrePart)) : WithTop (List (ℕ ⊕ₗ String)) :=
  pre.elim ⊤ fun parts => ↑(parts.map PrePart.rank)

def rank (v : Version) : Rank := toLex (significant v.segments, preRank v.pre)

theorem comparePre_compares (a b : Option (List PrePart)) :
    (comparePre a b).Compares (preRank a) (preRank b) := by
  have hpre : StrictMono fun parts : List (ℕ ⊕ₗ String) => (parts : WithTop (List (ℕ ⊕ₗ String))) :=
    WithTop.coe_strictMono
  cases a with
  | none =>
    cases b with
    | none => exact rfl
    | some y => exact WithTop.coe_lt_top _
  | some x =>
    cases b with
    | none => exact WithTop.coe_lt_top _
    | some y =>
      have hlifted := compares_of_strictMono hpre (compareLex_compares PrePart.compares_rank x y)
      exact hlifted

theorem compares_rank (v w : Version) : (v.compare w).Compares v.rank w.rank := by
  have hnumbers : (List.compareLex Ord.compare (significant v.segments) (significant w.segments)).Compares
      ((significant v.segments).map id) ((significant w.segments).map id) :=
    compareLex_compares compares_compare _ _
  rw [List.map_id, List.map_id, ← compareSegments_eq] at hnumbers
  exact compares_toLex hnumbers (comparePre_compares v.pre w.pre)

def IsNumeral (s : List Char) : Prop :=
  s ≠ [] ∧ s.all Char.isDigit = true ∧ Nat.ofDigitChars 10 s 0 < 2 ^ 64

instance (s : List Char) : Decidable (IsNumeral s) := inferInstanceAs (Decidable (_ ∧ _ ∧ _))

def identifier (s : List Char) : ℕ ⊕ₗ String :=
  if IsNumeral s then toLex (.inl (Nat.ofDigitChars 10 s 0)) else toLex (.inr (String.ofList s))

def numbers (core : List Char) : List ℕ := (Text.pieces '.' core).map fun s => Nat.ofDigitChars 10 s 0

def bare (raw : String) : List Char := withoutBuild (withoutMark (Text.trim raw.toList))

def readBare (text : List Char) : Option Version :=
  match Text.cut '-' text with
  | none => (readSegments text).map fun segments => ⟨segments, none⟩
  | some (_, []) => none
  | some (core, pre) =>
    (readSegments core).map fun segments => ⟨segments, some ((Text.pieces '.' pre).map PrePart.read)⟩

theorem read_eq (raw : String) : read raw = readBare (bare raw) := rfl

def bareRank (text : List Char) : Rank :=
  match Text.cut '-' text with
  | none => toLex (significant (numbers text), ⊤)
  | some (core, pre) => toLex (significant (numbers core), ↑((Text.pieces '.' pre).map identifier))

theorem plus_notMem_bare (raw : String) : '+' ∉ bare raw := by
  rw [bare, withoutBuild]
  cases hcut : Text.cut '+' (withoutMark (Text.trim raw.toList)) with
  | none => exact Text.cut_eq_none_iff.mp hcut
  | some parts => exact (Text.cut_eq_some_iff.mp hcut).2

theorem readBelow_eq {s : List Char} (h : '+' ∉ s) :
    Text.readBelow Text.limit64 s = if IsNumeral s then some (Nat.ofDigitChars 10 s 0) else none :=
  Text.readBelow_of_notMem h

theorem rank_read {s : List Char} (h : '+' ∉ s) : (PrePart.read s).rank = identifier s := by
  rw [PrePart.read, readBelow_eq h, identifier]
  by_cases hnumeral : IsNumeral s
  · rw [if_pos hnumeral, if_pos hnumeral]
    rfl
  · rw [if_neg hnumeral, if_neg hnumeral]
    rfl

theorem map_of_mapM {pieces : List (List Char)} {segments : List ℕ} (hplus : ∀ piece ∈ pieces, '+' ∉ piece)
    (h : pieces.mapM (Text.readBelow Text.limit64) = some segments) :
    segments = pieces.map fun s => Nat.ofDigitChars 10 s 0 := by
  induction pieces generalizing segments with
  | nil => exact (Option.some.inj h).symm
  | cons piece rest ih =>
    rw [List.mapM_cons] at h
    obtain ⟨n, hn, hothers⟩ := Option.bind_eq_some_iff.mp h
    obtain ⟨others, hrest, hsegments⟩ := Option.bind_eq_some_iff.mp hothers
    rw [readBelow_eq (hplus piece List.mem_cons_self)] at hn
    obtain ⟨-, heq⟩ := Option.ite_none_right_eq_some.mp hn
    obtain rfl := Option.some.inj heq
    rw [← Option.some.inj hsegments, List.map_cons,
      ih (fun other hother => hplus other (List.mem_cons_of_mem piece hother)) hrest]

theorem numbers_of_readSegments {core : List Char} {segments : List ℕ} (h : '+' ∉ core)
    (hread : readSegments core = some segments) : segments = numbers core :=
  map_of_mapM (fun _ hpiece hmem => h (Text.mem_of_mem_pieces hpiece hmem)) hread

theorem rank_of_readBare {text : List Char} {v : Version} (hplus : '+' ∉ text)
    (h : readBare text = some v) : v.rank = bareRank text := by
  rw [readBare] at h
  rw [bareRank]
  cases hcut : Text.cut '-' text with
  | none =>
    rw [hcut] at h
    obtain ⟨segments, hsegments, rfl⟩ := Option.map_eq_some_iff.mp h
    rw [← numbers_of_readSegments hplus hsegments]
    rfl
  | some parts =>
    obtain ⟨core, pre⟩ := parts
    obtain ⟨rfl, -⟩ := Text.cut_eq_some_iff.mp hcut
    cases pre with
    | nil =>
      rw [hcut] at h
      exact absurd h (by simp)
    | cons c rest =>
      rw [hcut] at h
      obtain ⟨segments, hsegments, rfl⟩ := Option.map_eq_some_iff.mp h
      have hcore : '+' ∉ core := fun hmem => hplus (List.mem_append_left _ hmem)
      have hparts : (Text.pieces '.' (c :: rest)).map (PrePart.rank ∘ PrePart.read) =
          (Text.pieces '.' (c :: rest)).map identifier := List.map_congr_left fun piece hpiece =>
        rank_read fun hmem => hplus (List.mem_append_right _
          (List.mem_cons_of_mem _ (Text.mem_of_mem_pieces hpiece hmem)))
      rw [rank, preRank, Option.elim, List.map_map, hparts, numbers_of_readSegments hcore hsegments]

structure IsBare (text : List Char) : Prop where
  trimmed : Text.trim text = text
  unmarked : text.head? ≠ some 'v'
  unbuilt : '+' ∉ text

def Dresses (text raw : List Char) : Prop :=
  ∃ left mark build right, (left ++ right).all Text.isBlank = true ∧ (mark = [] ∨ mark = ['v']) ∧
    (build = [] ∨ ∃ name, build = '+' :: name) ∧ raw = left ++ (mark ++ text ++ build) ++ right

theorem trim_marked {text mark : List Char} (h : Text.trim text = text) (hmark : mark = [] ∨ mark = ['v']) :
    Text.trim (mark ++ text) = mark ++ text := by
  rcases hmark with rfl | rfl
  · exact h
  · exact Text.trim_cons_of_trimmed h (by decide)

theorem withoutMark_marked {text mark build : List Char} (h : text.head? ≠ some 'v')
    (hmark : mark = [] ∨ mark = ['v']) (hbuild : build = [] ∨ ∃ name, build = '+' :: name) :
    withoutMark (mark ++ text ++ build) = text ++ build := by
  rcases hmark with rfl | rfl
  · rw [List.nil_append]
    cases text with
    | nil => rcases hbuild with rfl | ⟨name, rfl⟩ <;> rfl
    | cons c rest =>
      rw [List.cons_append, withoutMark]
      rintro more heq
      exact h (congrArg List.head? heq)
  · rfl

theorem withoutBuild_built {text build : List Char} (h : '+' ∉ text)
    (hbuild : build = [] ∨ ∃ name, build = '+' :: name) : withoutBuild (text ++ build) = text := by
  rw [withoutBuild]
  rcases hbuild with rfl | ⟨name, rfl⟩
  · rw [List.append_nil, Text.cut_eq_none_iff.mpr h]
  · rw [Text.cut_eq_some_iff.mpr ⟨rfl, h⟩]

theorem bare_of_dresses {text : List Char} {raw : String} (htext : IsBare text)
    (h : Dresses text raw.toList) : bare raw = text := by
  obtain ⟨left, mark, build, right, hblank, hmark, hbuild, hraw⟩ := h
  rw [List.all_append, Bool.and_eq_true, List.all_eq_true, List.all_eq_true] at hblank
  obtain ⟨hleft, hright⟩ := hblank
  have hmarked := trim_marked htext.trimmed hmark
  have hkept : ∃ kept, (kept = [] ∨ ∃ name, kept = '+' :: name) ∧
      Text.trim raw.toList = mark ++ text ++ kept := by
    rw [hraw]
    rcases hbuild with rfl | ⟨name, rfl⟩
    · refine ⟨[], .inl rfl, ?_⟩
      rw [List.append_nil, Text.trim_around _ hleft hright hmarked]
    · refine ⟨'+' :: (name ++ right).rdropWhile Text.isBlank, .inr ⟨_, rfl⟩, ?_⟩
      rw [List.append_assoc, List.append_assoc, List.cons_append,
        Text.trim_around_cons hleft hmarked (by decide)]
  obtain ⟨kept, hplus, htrim⟩ := hkept
  rw [bare, htrim, withoutMark_marked htext.unmarked hmark hplus, withoutBuild_built htext.unbuilt hplus]

theorem dresses_self (text : List Char) : Dresses text text :=
  ⟨[], [], [], [], rfl, .inl rfl, .inl rfl, by simp⟩

def rankOf (raw : String) : Rank := bareRank (bare raw)

theorem compare_follows_rank :
    (∀ a b c : String, ∀ va vb vc, read a = some va → read b = some vb → read c = some vc →
      va.compare va = .eq ∧ vb.compare va = (va.compare vb).swap ∧
      ((va.compare vb).isLE → (vb.compare vc).isLE → (va.compare vc).isLE) ∧
      (va.compare vb).Compares (rankOf a) (rankOf b) ∧
      (va.compare vb = .eq ↔ rankOf a = rankOf b)) ∧
    ∀ text raw : String, IsBare text.toList → Dresses text.toList raw.toList →
      read raw = read text ∧ rankOf raw = rankOf text := by
  constructor
  · intro a b c va vb vc ha hb hc
    have hranks := compares_rank va vb
    rw [rank_of_readBare (plus_notMem_bare a) ha, rank_of_readBare (plus_notMem_bare b) hb] at hranks
    exact ⟨Std.ReflCmp.compare_self, Std.OrientedCmp.eq_swap, Std.TransCmp.isLE_trans, hranks, hranks.eq_eq⟩
  · intro text raw htext hraw
    have hbare : bare raw = bare text := by
      rw [bare_of_dresses htext hraw, bare_of_dresses htext (dresses_self _)]
    exact ⟨by rw [read_eq, read_eq, hbare], by rw [rankOf, rankOf, hbare]⟩

theorem compare_follows_rank_of_candidates :
    let earlier : Version := ⟨[1, 2, 0], some [.word "rc", .number 10]⟩
    let later : Version := ⟨[1, 2], some [.word "rc", .word "10a"]⟩
    read "v1.2.0-rc.10+build.7" = some earlier ∧ read "1.2-rc.10a" = some later ∧
      earlier.compare later = .lt ∧ rankOf "v1.2.0-rc.10+build.7" < rankOf "1.2-rc.10a" ∧
      Dresses "1.2-rc.10a".toList " v1.2-rc.10a+build ".toList ∧
      read " v1.2-rc.10a+build " = read "1.2-rc.10a" := by
  intro earlier later
  have hearlier : read "v1.2.0-rc.10+build.7" = some earlier := by decide +kernel
  have hlater : read "1.2-rc.10a" = some later := by decide +kernel
  have hless : earlier.compare later = .lt := by decide +kernel
  have hdressed : Dresses "1.2-rc.10a".toList " v1.2-rc.10a+build ".toList :=
    ⟨[' '], ['v'], "+build".toList, [' '], rfl, .inr rfl, .inr ⟨"build".toList, rfl⟩, by decide +kernel⟩
  obtain ⟨-, -, -, hcompared, -⟩ := compare_follows_rank.1 _ _ _ _ _ _ hearlier hlater hlater
  rw [hless] at hcompared
  exact ⟨hearlier, hlater, hless, hcompared, hdressed,
    (compare_follows_rank.2 _ _ ⟨by decide +kernel, by decide +kernel, by decide +kernel⟩ hdressed).1⟩

end Version

end MultiCluster
