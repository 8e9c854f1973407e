namespace MultiCluster.Terminal

inductive Look where
  | plain
  | strong
  | heading
  deriving DecidableEq, Repr

structure Span where
  look : Look
  text : String
  deriving DecidableEq, Repr

def Look.start : Look → String
  | plain => ""
  | strong => "\x1b[1m"
  | heading => "\x1b[1m\x1b[4m"

def Look.finish : Look → String
  | plain => ""
  | _ => "\x1b[0m"

def marked (spans : List Span) : String :=
  String.join (spans.map fun s => s.look.start ++ s.text ++ s.look.finish)

def plainText (spans : List Span) : String := String.join (spans.map Span.text)

inductive Mode where
  | text
  | escape
  | escapeMiddle
  | control
  | title
  | device
  | deviceNumbers
  | deviceMiddle
  | unseen
  deriving DecidableEq, Repr

def isBreak (c : Char) : Bool := ['\t', '\n', '\x0c', '\r'].contains c

def isShown (c : Char) : Bool := (' ' ≤ c && c ≠ '\x7f') || isBreak c

def endsUnseen (c : Char) : Bool := (String.singleton c).toUTF8.toList.contains 0x9c

def isBetween (least greatest c : Char) : Bool := least ≤ c && c ≤ greatest

namespace Mode

def shows : Mode → Char → Bool
  | text, c => isShown c
  | escape, c => isBreak c
  | escapeMiddle, c => isBreak c
  | control, c => isBreak c
  | _, _ => false

def next (m : Mode) (c : Char) : Mode :=
  if c = '\x1b' then escape
  else if c = '\x18' ∨ c = '\x1a' then text
  else
    match m with
    | text => text
    | escape =>
      if c = '[' then control
      else if c = ']' then title
      else if c = 'P' then device
      else if c = 'X' ∨ c = '^' ∨ c = '_' then unseen
      else if isBetween ' ' '/' c then escapeMiddle
      else if isBetween '0' '~' c then text
      else escape
    | escapeMiddle => if isBetween '0' '~' c then text else escapeMiddle
    | control => if isBetween '@' '~' c then text else control
    | title => if c = '\x07' then text else title
    | device =>
      if isBetween ' ' '/' c then deviceMiddle
      else if isBetween '0' '?' c then deviceNumbers
      else if isBetween '@' '~' c then unseen
      else device
    | deviceNumbers =>
      if isBetween ' ' '/' c then deviceMiddle
      else if isBetween '<' '~' c then unseen
      else deviceNumbers
    | deviceMiddle => if isBetween '0' '~' c then unseen else deviceMiddle
    | unseen => if endsUnseen c then text else unseen

def afterShown (m : Mode) (c : Char) : Mode := if c.toNat < 128 then m else text

end Mode

def visibleFrom (m : Mode) (flowing : Bool) : List Char → List Char
  | [] => []
  | c :: rest =>
    if isShown c && (flowing || m.shows c) then c :: visibleFrom (m.afterShown c) true rest
    else visibleFrom (m.next c) false rest

def visible (text : String) : String := String.ofList (visibleFrom .text false text.toList)

theorem isShown_of_mem_visibleFrom {c : Char} {m : Mode} {flowing : Bool} {text : List Char}
    (h : c ∈ visibleFrom m flowing text) : isShown c = true := by
  induction text generalizing m flowing with
  | nil => simp [visibleFrom] at h
  | cons d rest ih =>
    unfold visibleFrom at h
    split at h
    next hd =>
      rcases List.mem_cons.mp h with rfl | h
      · exact (Bool.and_eq_true_iff.mp hd).1
      · exact ih h
    next => exact ih h

theorem visibleFrom_of_shown {flowing : Bool} {text : List Char}
    (h : ∀ c ∈ text, isShown c = true) : visibleFrom .text flowing text = text := by
  induction text generalizing flowing with
  | nil => rfl
  | cons c rest ih =>
    have hc : isShown c = true := h c (by simp)
    have hm : Mode.afterShown .text c = .text := by simp [Mode.afterShown]
    simp [visibleFrom, Mode.shows, hc, hm, ih fun d hd => h d (List.mem_cons_of_mem _ hd)]

theorem visible_visible (text : String) : visible (visible text) = visible text := by
  simp only [visible, String.toList_ofList]
  rw [visibleFrom_of_shown fun _ => isShown_of_mem_visibleFrom]

end MultiCluster.Terminal
