import InterfaceGen.Layout.Script
import InterfaceGen.Proofs.Layout.Line
import Mathlib.Data.List.DropRight

/-!
# The layout of every script

A script of edits puts characters on a page, each inside some number of blocks (`Edit.glyphs`).  The
first character of a line that is not white space is the start of that line (`Starts.read`).  Of the
finished page we show that its lines are exactly the started ones, in order, with at most one blank
line between two of them (`LaidOut`): each is indented by the depth of its start, none ends in white
space, and the end of a block is alone on its line and follows no blank line.

* `pushChar_follows`, `closeBlock_follows`: what one character and the end of a block keep;
* `run_follows`, `runAll_follows`: what a script keeps, whether it is stopped or not;
* `layout_of_every_script`: the layout of the finished page.
-/

namespace InterfaceGen

/-! ### Scripts of edits -/

/-- A step of a script that puts text on a page. -/
inductive Edit where
  | append (text : String)
  | line (text : String)
  | join (separator : String) (items : List String)
  | block (body : List Edit)
  | stop

/-- A character on its way to a page. -/
structure Glyph where
  char : Char
  /-- The number of blocks around it. -/
  depth : Nat
  /-- Whether it ends a block. -/
  closes : Bool
  deriving DecidableEq

/-- The characters of a text inside `depth` blocks. -/
def glyphsOf (depth : Nat) (cs : List Char) : List Glyph :=
  cs.map (Glyph.mk · depth false)

/-- The characters that end a block inside `depth` others: the end of the open line, the brace, and
the end of its line. -/
def closingGlyphs (depth : Nat) : List Glyph :=
  [⟨'\n', depth + 1, false⟩, ⟨'\x7d', depth, true⟩, ⟨'\n', depth, false⟩]

namespace Edit

mutual

/-- An edit as a step. -/
def toStep : Edit → Step
  | .append text => .append text
  | .line text => .line text
  | .join separator items => .join separator items
  | .block body => .block (toSteps body)
  | .stop => .stop

/-- Edits as steps. -/
def toSteps : List Edit → List Step
  | [] => []
  | e :: es => e.toStep :: toSteps es

end

mutual

/-- Whether an edit stops the script. -/
def stops : Edit → Bool
  | .append _ | .line _ | .join _ _ => false
  | .block body => anyStops body
  | .stop => true

/-- Whether one of the edits stops the script. -/
def anyStops : List Edit → Bool
  | [] => false
  | e :: es => e.stops || anyStops es

end

mutual

/-- The characters that an edit inside `depth` blocks puts on a page. -/
def glyphs (depth : Nat) : Edit → List Glyph
  | .append text => glyphsOf depth text.toList
  | .line text => glyphsOf depth (text.toList ++ ['\n'])
  | .join separator items => glyphsOf depth (Text.joinWith separator items).toList
  | .block body =>
    glyphsOf depth ['\x7b', '\n'] ++ allGlyphs (depth + 1) body ++ closingGlyphs depth
  | .stop => []

/-- The characters that edits put on a page, up to the first edit that stops the script. -/
def allGlyphs (depth : Nat) : List Edit → List Glyph
  | [] => []
  | e :: es => e.glyphs depth ++ if e.stops then [] else allGlyphs depth es

end

end Edit

/-! ### Starts of lines -/

/-- The starts of the lines read so far. -/
structure Starts where
  /-- The starts of the lines that have ended. -/
  ended : List Glyph := []
  /-- The start of the open line, if there is anything on it. -/
  current : Option Glyph := none

namespace Starts

/-- All starts. -/
def all (s : Starts) : List Glyph :=
  s.ended ++ s.current.toList

/-- The starts after one more character.  A line starts with its first character that is not white
space. -/
def read (s : Starts) (g : Glyph) : Starts :=
  if g.char = '\n' then ⟨s.all, none⟩
  else if Text.isBlank g.char then s
  else ⟨s.ended, some (s.current.getD g)⟩

/-- The starts after more characters. -/
def readAll (s : Starts) (gs : List Glyph) : Starts :=
  gs.foldl read s

end Starts

/-- The starts of the lines of a script. -/
def Edit.starts (es : List Edit) : List Glyph :=
  (Starts.readAll {} (Edit.allGlyphs 0 es)).all

/-! ### The layout of lines -/

/-- The line `l` starts with `g`. -/
structure Begins (g : Glyph) (l : List Char) : Prop where
  /-- Behind the indentation comes the start of the line. -/
  indented : ∃ rest, l = List.replicate (4 * g.depth) ' ' ++ g.char :: rest
  start : Text.isBlank g.char = false
  trimmed : ∀ c ∈ l.getLast?, Text.isBlank c = false
  single : '\n' ∉ l ∧ '\r' ∉ l
  /-- The end of a block is alone on its line. -/
  alone : g.closes = true → l = List.replicate (4 * g.depth) ' ' ++ ['\x7d']

/-- Lines with the given starts, with at most one blank line between two of them and none before the
end of a block. -/
inductive LaidOut : List (List Char) → List Glyph → Prop
  | nil : LaidOut [] []
  | line {g : Glyph} {l : List Char} {ls : List (List Char)} {gs : List Glyph} :
      Begins g l → LaidOut ls gs → LaidOut (l :: ls) (g :: gs)
  | gap {g h : Glyph} {l : List Char} {ls : List (List Char)} {gs : List Glyph} :
      Begins g l → h.closes = false → LaidOut ls (h :: gs) → LaidOut (l :: [] :: ls) (g :: h :: gs)

theorem Begins.ne_nil {g : Glyph} {l : List Char} (h : Begins g l) : l ≠ [] := by
  obtain ⟨rest, rfl⟩ := h.indented
  simp

namespace LaidOut

theorem nil_iff {ls : List (List Char)} {gs : List Glyph} (h : LaidOut ls gs) :
    ls = [] ↔ gs = [] := by
  cases h <;> simp

theorem ne_nil {ls : List (List Char)} {g : Glyph} {gs : List Glyph} (h : LaidOut ls (g :: gs)) :
    ls ≠ [] := by
  cases h <;> simp

/-- The last line is not blank. -/
theorem getLast_ne_nil {ls : List (List Char)} {gs : List Glyph} (h : LaidOut ls gs) :
    ls.getLast? ≠ some [] := by
  induction h with
  | nil => simp
  | @line g l ls gs hl hls ih =>
    rw [List.getLast?_cons]
    cases hlast : ls.getLast? with
    | none => simpa using hl.ne_nil
    | some k => simpa [hlast] using ih
  | @gap g h l ls gs hl hh hls ih =>
    rw [List.getLast?_cons, List.getLast?_cons]
    cases hlast : ls.getLast? with
    | none => exact absurd (List.getLast?_eq_none_iff.mp hlast) hls.ne_nil
    | some k => simpa [hlast] using ih

/-- One more line. -/
theorem concat {ls : List (List Char)} {gs : List Glyph} {l : List Char} {g : Glyph}
    (h : LaidOut ls gs) (hl : Begins g l) : LaidOut (ls ++ [l]) (gs ++ [g]) := by
  induction h with
  | nil => exact .line hl .nil
  | line hk hls ih => exact .line hk ih
  | gap hk hh hls ih => exact .gap hk hh ih

/-- A blank line and one more line. -/
theorem concat_gap {ls : List (List Char)} {gs : List Glyph} {l : List Char} {g : Glyph}
    (h : LaidOut ls gs) (hne : ls ≠ []) (hl : Begins g l) (hg : g.closes = false) :
    LaidOut (ls ++ [[], l]) (gs ++ [g]) := by
  induction h with
  | nil => exact absurd rfl hne
  | line hk hls ih =>
    cases hls with
    | nil => exact .gap hk hg (.line hl .nil)
    | line hj hls => exact .line hk (ih (by simp))
    | gap hj hh hls => exact .line hk (ih (by simp))
  | gap hk hh hls ih =>
    refine .gap hk hh (ih ?_)
    rintro rfl
    cases hls

end LaidOut

/-! ### The open line -/

/-- The open line, given backwards, starts with `g`. -/
structure Opens (g : Glyph) (line : List Char) : Prop where
  inside : g.closes = false
  start : Text.isBlank g.char = false
  indented : ∃ rest, line = (g.char :: rest).reverse ++ Page.indentation g.depth
  single : '\n' ∉ line ∧ '\r' ∉ line

namespace Opens

theorem ne_nil {g : Glyph} {line : List Char} (h : Opens g line) : line ≠ [] := by
  obtain ⟨rest, rfl⟩ := h.indented
  simp

theorem push {g : Glyph} {line : List Char} (h : Opens g line) {c : Char} (hn : c ≠ '\n')
    (hr : c ≠ '\r') : Opens g (c :: line) where
  inside := h.inside
  start := h.start
  indented := by
    obtain ⟨rest, rfl⟩ := h.indented
    exact ⟨rest ++ [c], by simp⟩
  single := by
    obtain ⟨h1, h2⟩ := h.single
    simp [h1, h2, hn.symm, hr.symm]

theorem first {c : Char} (hb : Text.isBlank c = false) (depth : Nat) :
    Opens ⟨c, depth, false⟩ (c :: Page.indentation depth) where
  inside := rfl
  start := hb
  indented := ⟨[], rfl⟩
  single := by
    have hn : '\n' ≠ c := by
      rintro rfl
      exact absurd hb (by decide)
    have hr : '\r' ≠ c := by
      rintro rfl
      exact absurd hb (by decide)
    simp [hn, hr, Page.indentation]

/-- The open line, once ended, is a line with the same start. -/
theorem begins {g : Glyph} {line : List Char} (h : Opens g line) :
    Begins g (line.dropWhile Text.isBlank).reverse := by
  obtain ⟨rest, hrest⟩ := h.indented
  obtain ⟨hdrop, hne⟩ := Line.dropWhile_reverse_append (Page.indentation g.depth)
    (List.mem_cons_self (a := g.char) (l := rest)) h.start
  have hline : (line.dropWhile Text.isBlank).reverse =
      List.replicate (4 * g.depth) ' ' ++ Text.trimEndChars (g.char :: rest) := by
    rw [hrest, hdrop]
    simp [Page.indentation]
  have hprefix : Text.trimEndChars (g.char :: rest) <+: g.char :: rest :=
    List.rdropWhile_prefix _ _
  have hlast := List.rdropWhile_last_not Text.isBlank (g.char :: rest) hne
  have hsub := (List.dropWhile_sublist Text.isBlank (l := line)).subset
  obtain ⟨c, t, ht⟩ := List.exists_cons_of_ne_nil hne
  have hc : c = g.char := by
    rw [ht] at hprefix
    exact (List.cons_prefix_cons.mp hprefix).1
  refine ⟨⟨t, by rw [hline, ht, hc]⟩, h.start, ?_, ?_, fun hg => ?_⟩
  · intro d hd
    rw [hline, List.getLast?_append, List.getLast?_eq_some_getLast hne, Option.some_or] at hd
    obtain rfl := Option.some.inj hd
    exact Bool.eq_false_iff.mpr hlast
  · exact ⟨fun hm => h.single.1 (hsub (List.mem_reverse.mp hm)),
      fun hm => h.single.2 (hsub (List.mem_reverse.mp hm))⟩
  · rw [h.inside] at hg
    cases hg

end Opens

namespace Starts

theorem read_newline (s : Starts) (depth : Nat) : s.read ⟨'\n', depth, false⟩ = ⟨s.all, none⟩ := rfl

theorem read_blank (s : Starts) {c : Char} (hn : c ≠ '\n') (hb : Text.isBlank c = true)
    (depth : Nat) : s.read ⟨c, depth, false⟩ = s := by
  simp [read, hn, hb]

/-- On a line that has started nothing changes before its end. -/
theorem read_started {s : Starts} {g : Glyph} (hs : s.current = some g) {c : Char} (hn : c ≠ '\n')
    (depth : Nat) : s.read ⟨c, depth, false⟩ = s := by
  obtain ⟨ended, current⟩ := s
  subst hs
  cases hb : Text.isBlank c <;> simp [read, hn, hb]

theorem read_first {s : Starts} (hs : s.current = none) {c : Char} (hn : c ≠ '\n')
    (hb : Text.isBlank c = false) (depth : Nat) :
    s.read ⟨c, depth, false⟩ = ⟨s.ended, some ⟨c, depth, false⟩⟩ := by
  simp [read, hn, hb, hs]

theorem readAll_append (s : Starts) (a b : List Glyph) :
    s.readAll (a ++ b) = (s.readAll a).readAll b :=
  List.foldl_append

theorem readAll_closing (s : Starts) (depth : Nat) :
    s.readAll (closingGlyphs depth) = ⟨s.all ++ [⟨'\x7d', depth, true⟩], none⟩ := by
  have hb : Text.isBlank '\x7d' = false := by decide
  simp [readAll, closingGlyphs, read, hb, all]

end Starts

/-! ### What every character keeps -/

namespace Page

/-- The page is inside `depth` blocks, its finished lines are laid out, possibly with a blank line
behind them, and the lines have the starts `s`. -/
structure Follows (p : Page) (depth : Nat) (s : Starts) : Prop where
  depth : p.depth = depth
  done : ∃ ls, LaidOut ls s.ended ∧ (p.done = ls.reverse ∨ ls ≠ [] ∧ p.done = [] :: ls.reverse)
  start : s.current = none → AtStart p
  opens : ∀ g, s.current = some g → Opens g p.current

theorem follows_blank : Follows .blank 0 {} where
  depth := rfl
  done := ⟨[], .nil, Or.inl rfl⟩
  start _ := atStart_blank
  opens _ h := by cases h

theorem atGap_of_reverse {p : Page} {ls : List (List Char)} {gs : List Glyph} (h : LaidOut ls gs)
    (hd : p.done = ls.reverse) : p.atGap = ls.isEmpty := by
  rw [atGap, hd]
  rcases List.eq_nil_or_concat' ls with rfl | ⟨ls, l, rfl⟩
  · rfl
  · have hl : l.isEmpty = false := by simpa using h.getLast_ne_nil
    rw [List.reverse_append, List.reverse_singleton, List.singleton_append]
    exact hl.trans (by simp)

/-- The end of the open line. -/
theorem endLine_follows {p : Page} {depth : Nat} {s : Starts} (h : Follows p depth s) :
    Follows p.endLine depth ⟨s.all, none⟩ := by
  obtain ⟨ls, hls, hdone⟩ := h.done
  cases hs : s.current with
  | none =>
    have hcur := (h.start hs).current
    have hend : p.endLine = { p with
        done := if p.atGap then p.done else [] :: p.done, pending := false, mode := .code } := by
      rw [endLine, hcur]
      rfl
    rw [hend, Starts.all, hs, Option.toList_none, List.append_nil]
    refine ⟨h.depth, ⟨ls, hls, ?_⟩, fun _ => ⟨hcur, rfl, rfl⟩, fun _ hg => by cases hg⟩
    -- One blank line is kept behind the others, unless there are none or it is there already.
    rcases hdone with hd | ⟨hne, hd⟩
    · rw [atGap_of_reverse hls hd]
      cases ls with
      | nil => exact Or.inl hd
      | cons l ls => exact Or.inr ⟨by simp, by simp [hd]⟩
    · exact Or.inr ⟨hne, by simp [atGap, hd]⟩
  | some g =>
    have hopens := h.opens g hs
    have hend : p.endLine = { p with
        done := (p.current.dropWhile Text.isBlank).reverse :: p.done, current := [],
        pending := false, mode := .code } := by
      rw [endLine, if_neg (by simpa using hopens.ne_nil)]
    rw [hend, Starts.all, hs, Option.toList_some]
    refine ⟨h.depth, ?_, fun _ => ⟨rfl, rfl, rfl⟩, fun _ hg => by cases hg⟩
    -- The line comes right behind the others, or behind the blank line that was kept.
    rcases hdone with hd | ⟨hne, hd⟩
    · exact ⟨_, hls.concat hopens.begins, Or.inl (by simp [hd])⟩
    · exact ⟨_, hls.concat_gap hne hopens.begins hopens.inside, Or.inl (by simp [hd])⟩

/-- What is put behind the start of the open line changes no start. -/
theorem Follows.behind {p q : Page} {depth : Nat} {s : Starts} {g : Glyph} (h : Follows p depth s)
    (hs : s.current = some g) (hdepth : q.depth = p.depth) (hdone : q.done = p.done)
    (hq : Opens g q.current) : Follows q depth s where
  depth := hdepth.trans h.depth
  done := hdone ▸ h.done
  start hnone := by
    rw [hs] at hnone
    cases hnone
  opens k hk := by
    rw [hs] at hk
    obtain rfl := Option.some.inj hk
    exact hq

/-- One character. -/
theorem pushChar_follows {p : Page} {depth : Nat} {s : Starts} (h : Follows p depth s) (c : Char) :
    Follows (p.pushChar c) depth (s.read ⟨c, depth, false⟩) := by
  by_cases hn : c = '\n'
  · subst hn
    rw [Starts.read_newline]
    exact endLine_follows h
  by_cases hr : c = '\r'
  · -- A carriage return never reaches the page, and as white space it starts no line.
    subst hr
    rw [Starts.read_blank s (by decide) (by decide)]
    exact h
  rw [pushChar, if_neg hr, if_neg hn]
  cases hs : s.current with
  | none =>
    obtain ⟨hcur, hpending, hmode⟩ := h.start hs
    rw [if_neg (not_not.mpr hmode)]
    cases hb : Text.isBlank c with
    | true =>
      rw [if_pos rfl, Starts.read_blank s hn hb]
      exact ⟨h.depth, h.done, fun _ => ⟨hcur, by simp [hpending, hcur], hmode⟩, h.opens⟩
    | false =>
      rw [if_neg (by simp), Starts.read_first hs hn hb]
      refine ⟨h.depth, h.done, (fun hnone => by cases hnone), ?_⟩
      rintro g ⟨rfl⟩
      have hpush : (p.pushCode c).current = c :: indentation depth := by
        simp [pushCode, hcur, h.depth]
      rw [hpush]
      exact Opens.first hb depth
  | some g =>
    have hopens := h.opens g hs
    rw [Starts.read_started hs hn]
    split_ifs with hmode hb
    · exact h.behind hs rfl rfl (hopens.push hn hr)
    · exact h.behind hs rfl rfl hopens
    · refine h.behind hs rfl rfl ?_
      simp only [pushCode, List.isEmpty_iff, hopens.ne_nil, ↓reduceIte]
      split_ifs
      · exact (hopens.push (by decide) (by decide)).push hn hr
      · exact hopens.push hn hr

/-- **Characters.**  Those of a text start their lines one after another. -/
theorem appendChars_follows {p : Page} {depth : Nat} {s : Starts} (h : Follows p depth s)
    (cs : List Char) : Follows (p.appendChars cs) depth (s.readAll (glyphsOf depth cs)) := by
  induction p, cs using appendChars.induct generalizing s with
  | case1 p => exact h
  | case2 p c => exact pushChar_follows h c
  | case3 p c d cs hcd ih =>
    -- A doubled quote is put on the open line as two characters.
    obtain ⟨hmode, rfl, rfl⟩ := hcd
    rw [appendChars_doubled ⟨hmode, rfl, rfl⟩]
    cases hs : s.current with
    | none =>
      -- No literal is open at the start of a line.
      simp [(h.start hs).mode] at hmode
    | some g =>
      have hquote : ∀ depth, s.read ⟨'"', depth, false⟩ = s := Starts.read_started hs (by decide)
      have hread : s.readAll (glyphsOf depth ('"' :: '"' :: cs)) =
          s.readAll (glyphsOf depth cs) := by
        simp [Starts.readAll, glyphsOf, hquote]
      have hopens := (h.opens g hs).push (c := '"') (by decide) (by decide)
      rw [hread]
      exact ih (h.behind hs rfl rfl (hopens.push (by decide) (by decide)))
  | case4 p c d cs hcd ih =>
    rw [appendChars_pushChar hcd]
    exact ih (pushChar_follows h c)

/-! ### What every edit keeps -/

theorem append_follows {p : Page} {depth : Nat} {s : Starts} (h : Follows p depth s)
    (text : String) : Follows (p.append text) depth (s.readAll (glyphsOf depth text.toList)) :=
  appendChars_follows h text.toList

theorem line_follows {p : Page} {depth : Nat} {s : Starts} (h : Follows p depth s)
    (text : String) :
    Follows (p.line text) depth (s.readAll (glyphsOf depth (text.toList ++ ['\n']))) := by
  rw [glyphsOf, List.map_append, Starts.readAll_append]
  exact endLine_follows (append_follows h text)

theorem join_follows {p : Page} {depth : Nat} {s : Starts} (h : Follows p depth s)
    (separator : String) (items : List String) :
    Follows (p.join separator items) depth
      (s.readAll (glyphsOf depth (Text.joinWith separator items).toList)) := by
  match items with
  | [] => exact h
  | [x] => exact append_follows h x
  | x :: y :: items =>
    have hxs := join_follows (append_follows (append_follows h x) separator) separator (y :: items)
    rw [← Starts.readAll_append, ← Starts.readAll_append] at hxs
    rw [join, Text.joinWith]
    simpa [glyphsOf] using hxs

theorem openBlock_follows {p : Page} {depth : Nat} {s : Starts} (h : Follows p depth s) :
    Follows p.openBlock (depth + 1) (s.readAll (glyphsOf depth ['\x7b', '\n'])) := by
  have hl := line_follows h "\x7b"
  exact ⟨congrArg (· + 1) hl.depth, hl.done, fun hs => (hl.start hs).rebase _ _, hl.opens⟩

theorem Follows.current_eq_nil_iff {p : Page} {depth : Nat} {s : Starts} (h : Follows p depth s) :
    p.current = [] ↔ s.current = none := by
  constructor
  · intro hcur
    cases hs : s.current with
    | none => rfl
    | some g => exact absurd hcur (h.opens g hs).ne_nil
  · exact fun hs => (h.start hs).current

theorem flush_follows {p : Page} {depth : Nat} {s : Starts} (h : Follows p depth s) :
    Follows p.flush depth ⟨s.all, none⟩ := by
  rw [flush]
  split_ifs with hcur
  · obtain ⟨ended, current⟩ := s
    obtain rfl : current = none := h.current_eq_nil_iff.mp (List.isEmpty_iff.mp hcur)
    rwa [Starts.all, Option.toList_none, List.append_nil]
  · exact endLine_follows h

/-- Without a blank line at the end the page holds the laid out lines only. -/
theorem closeGap_follows {p : Page} {depth : Nat} {s : Starts} (h : Follows p depth s) :
    ∃ ls, LaidOut ls s.ended ∧ p.closeGap = { p with done := ls.reverse } := by
  obtain ⟨ls, hls, hdone | ⟨hne, hdone⟩⟩ := h.done
  · refine ⟨ls, hls, ?_⟩
    have hlast := hls.getLast_ne_nil
    rw [← List.head?_reverse, ← hdone] at hlast
    rw [closeGap, ← hdone]
    split
    · next hd => simp [hd] at hlast
    · rfl
  · refine ⟨ls, hls, ?_⟩
    rw [closeGap, hdone]

theorem begins_closing (depth : Nat) :
    Begins ⟨'\x7d', depth, true⟩ (List.replicate (4 * depth) ' ' ++ ['\x7d']) where
  indented := ⟨[], rfl⟩
  start := show Text.isBlank '\x7d' = false by decide
  trimmed c hc := by
    rw [List.getLast?_append, List.getLast?_singleton, Option.some_or] at hc
    obtain rfl := Option.some.inj hc
    decide
  single := by simp
  alone _ := rfl

/-- The brace at the end of a block, on a page without a blank line at its end. -/
theorem line_brace_follows {p : Page} {depth : Nat} {ls : List (List Char)} {gs : List Glyph}
    (hs : AtStart p) (hdepth : p.depth = depth) (hls : LaidOut ls gs) (hd : p.done = ls.reverse) :
    Follows (p.line "\x7d") depth ⟨gs ++ [⟨'\x7d', depth, true⟩], none⟩ := by
  have hbrace : textLines "\x7d" = [['\x7d']] ∧ Line.normal ['\x7d'] = ['\x7d'] := by decide
  have hline : p.line "\x7d" = p.addLine ['\x7d'] := by
    rw [line_eq_addLines hs, hbrace.1, addLines, List.foldl_cons, List.foldl_nil, hbrace.2]
  rw [hline]
  refine ⟨hdepth, ⟨_, hls.concat (begins_closing depth), Or.inl ?_⟩, fun _ => hs.addLine _,
    fun _ hg => by cases hg⟩
  simp [addLine, indentation, hdepth, hd]

/-- The end of a block. -/
theorem closeBlock_follows {p : Page} {depth : Nat} {s : Starts} (h : Follows p (depth + 1) s) :
    Follows p.closeBlock depth (s.readAll (closingGlyphs depth)) := by
  have hf := flush_follows h
  have hstart := hf.start rfl
  have hdepth : p.flush.depth - 1 = depth := by rw [hf.depth, Nat.add_sub_cancel]
  -- The page is back in the outer block before the brace is written.
  have hq : Follows { p.flush with depth := p.flush.depth - 1 } depth ⟨s.all, none⟩ :=
    ⟨hdepth, hf.done, fun _ => hstart.rebase _ _, hf.opens⟩
  obtain ⟨ls, hls, hgap⟩ := closeGap_follows hq
  rw [closeBlock, hgap, Starts.readAll_closing]
  exact line_brace_follows (hstart.rebase _ _) hdepth hls rfl

end Page

/-! ### What every script keeps -/

namespace Edit

mutual

/-- **One edit.**  It puts its characters on the page and tells whether it stops the script. -/
theorem run_follows (settings : Settings) {d : Draft} {depth : Nat} {s : Starts}
    (h : d.page.Follows depth s) : ∀ e : Edit,
    (Step.run settings d e.toStep).draft.page.Follows depth (s.readAll (e.glyphs depth)) ∧
      (Step.run settings d e.toStep).stopped = e.stops
  | .append text => ⟨Page.append_follows h text, rfl⟩
  | .line text => ⟨Page.line_follows h text, rfl⟩
  | .join separator items => ⟨Page.join_follows h separator items, rfl⟩
  | .stop => ⟨h, rfl⟩
  | .block body => by
    have hopen : (d.onPage Page.openBlock).page.Follows (depth + 1)
        (s.readAll (glyphsOf depth ['\x7b', '\n'])) := Page.openBlock_follows h
    obtain ⟨hbody, hstopped⟩ := runAll_follows settings hopen body
    rw [glyphs, Starts.readAll_append, Starts.readAll_append]
    exact ⟨Page.closeBlock_follows hbody, hstopped⟩

/-- **A whole script.**  It does so up to the edit that stops it. -/
theorem runAll_follows (settings : Settings) {d : Draft} {depth : Nat} {s : Starts}
    (h : d.page.Follows depth s) : ∀ es : List Edit,
    (Step.runAll settings d (toSteps es)).draft.page.Follows depth
        (s.readAll (allGlyphs depth es)) ∧
      (Step.runAll settings d (toSteps es)).stopped = anyStops es
  | [] => ⟨h, rfl⟩
  | e :: es => by
    obtain ⟨hrun, hstopped⟩ := run_follows settings h e
    rw [toSteps, Step.runAll, allGlyphs, anyStops, hstopped, Starts.readAll_append]
    cases hstops : e.stops with
    | true => exact ⟨hrun, hstopped.trans hstops⟩
    | false => exact runAll_follows settings hrun es

end

/-! ### Every end of a block starts a line -/

theorem filter_closes_glyphsOf (depth : Nat) (cs : List Char) :
    (glyphsOf depth cs).filter (·.closes) = [] := by
  simp [glyphsOf]

theorem filter_closes_readAll_glyphsOf (s : Starts) (depth : Nat) (cs : List Char) :
    (s.readAll (glyphsOf depth cs)).all.filter (·.closes) = s.all.filter (·.closes) := by
  induction cs generalizing s with
  | nil => rfl
  | cons c cs ih =>
    have hread : (s.read ⟨c, depth, false⟩).all.filter (·.closes) = s.all.filter (·.closes) := by
      rw [Starts.read]
      split_ifs
      · simp [Starts.all]
      · rfl
      · cases hs : s.current <;> simp [Starts.all, hs]
    exact (ih _).trans hread

theorem filter_closes_readAll_closing (s : Starts) (depth : Nat) :
    (s.readAll (closingGlyphs depth)).all.filter (·.closes) =
      s.all.filter (·.closes) ++ (closingGlyphs depth).filter (·.closes) := by
  rw [Starts.readAll_closing]
  simp [Starts.all, closingGlyphs]

mutual

theorem filter_closes_readAll_glyphs (s : Starts) (depth : Nat) : ∀ e : Edit,
    (s.readAll (e.glyphs depth)).all.filter (·.closes) =
      s.all.filter (·.closes) ++ (e.glyphs depth).filter (·.closes)
  | .append text => by
    rw [glyphs, filter_closes_readAll_glyphsOf, filter_closes_glyphsOf, List.append_nil]
  | .line text => by
    rw [glyphs, filter_closes_readAll_glyphsOf, filter_closes_glyphsOf, List.append_nil]
  | .join separator items => by
    rw [glyphs, filter_closes_readAll_glyphsOf, filter_closes_glyphsOf, List.append_nil]
  | .stop => by simp [glyphs, Starts.readAll]
  | .block body => by
    rw [glyphs, Starts.readAll_append, Starts.readAll_append, filter_closes_readAll_closing,
      filter_closes_readAll_allGlyphs _ _ body, filter_closes_readAll_glyphsOf, List.filter_append,
      List.filter_append, filter_closes_glyphsOf, List.nil_append, List.append_assoc]

theorem filter_closes_readAll_allGlyphs (s : Starts) (depth : Nat) : ∀ es : List Edit,
    (s.readAll (allGlyphs depth es)).all.filter (·.closes) =
      s.all.filter (·.closes) ++ (allGlyphs depth es).filter (·.closes)
  | [] => by simp [allGlyphs, Starts.readAll]
  | e :: es => by
    rw [allGlyphs, Starts.readAll_append]
    cases e.stops with
    | true => simpa [Starts.readAll] using filter_closes_readAll_glyphs s depth e
    | false =>
      have hes := filter_closes_readAll_allGlyphs (s.readAll (e.glyphs depth)) depth es
      rw [filter_closes_readAll_glyphs s depth e] at hes
      simpa using hes

end

end Edit

/-! ### The text of laid out lines -/

/-- Lines one after another, each with its end. -/
def linesText (ls : List (List Char)) : List Char :=
  ls.flatMap (· ++ ['\n'])

/-- A text with the layout of a page.  Its lines have the given starts. -/
structure Neat (text : List Char) (starts : List Glyph) : Prop where
  leading : text.head? ≠ some '\n'
  /-- The text ends with exactly one line feed. -/
  final : ∃ init, text = init ++ ['\n'] ∧ init.getLast? ≠ some '\n'
  carriage : '\r' ∉ text
  /-- There are no three line feeds together. -/
  gaps : ¬['\n', '\n', '\n'] <:+: text
  lines : ∃ ls, text = linesText ls ∧
    (∀ l ∈ ls, '\n' ∉ l ∧ ∀ c ∈ l.getLast?, Text.isBlank c = false) ∧ LaidOut ls starts

theorem linesText_cons (l : List Char) (ls : List (List Char)) :
    linesText (l :: ls) = l ++ '\n' :: linesText ls := by
  simp [linesText]

theorem linesText_eq_nil_iff {ls : List (List Char)} : linesText ls = [] ↔ ls = [] := by
  cases ls <;> simp [linesText]

/-- Three line feeds together start behind what has none. -/
theorem infix_append_of_not_mem {a b : List Char} (ha : '\n' ∉ a)
    (h : ['\n', '\n', '\n'] <:+: a ++ b) : ['\n', '\n', '\n'] <:+: b := by
  induction a with
  | nil => exact h
  | cons c a ih =>
    rcases List.infix_cons_iff.mp h with hp | hi
    · rw [← (List.cons_prefix_cons.mp hp).1] at ha
      exact absurd List.mem_cons_self ha
    · exact ih (fun hm => ha (List.mem_cons_of_mem c hm)) hi

namespace LaidOut

variable {ls : List (List Char)} {gs : List Glyph}

theorem forall_mem (h : LaidOut ls gs) :
    ∀ l ∈ ls, '\n' ∉ l ∧ '\r' ∉ l ∧ ∀ c ∈ l.getLast?, Text.isBlank c = false := by
  induction h with
  | nil => simp
  | line hl hls ih => simpa using ⟨⟨hl.single.1, hl.single.2, hl.trimmed⟩, ih⟩
  | gap hl hh hls ih => simpa using ⟨⟨hl.single.1, hl.single.2, hl.trimmed⟩, ih⟩

theorem head_linesText (h : LaidOut ls gs) : (linesText ls).head? ≠ some '\n' := by
  have hfirst : ∀ {g : Glyph} {l : List Char} (rest : List Char), Begins g l →
      (l ++ '\n' :: rest).head? ≠ some '\n' := by
    intro g l rest hl
    obtain ⟨c, t, rfl⟩ := List.exists_cons_of_ne_nil hl.ne_nil
    rintro ⟨rfl⟩
    exact hl.single.1 List.mem_cons_self
  cases h with
  | nil => simp [linesText]
  | line hl hls =>
    rw [linesText_cons]
    exact hfirst _ hl
  | gap hl hh hls =>
    rw [linesText_cons]
    exact hfirst _ hl

theorem not_mem_linesText (h : LaidOut ls gs) : '\r' ∉ linesText ls := by
  intro hm
  obtain ⟨l, hl, hr⟩ := List.mem_flatMap.mp hm
  simp [(h.forall_mem l hl).2.1] at hr

/-- Between two lines there are at most two line feeds. -/
theorem not_infix_linesText (h : LaidOut ls gs) : ¬['\n', '\n', '\n'] <:+: linesText ls := by
  -- The line feeds cannot reach into the next line, which starts with something else.
  have hstart : ∀ {ks : List (List Char)} {hs : List Glyph} (t : List Char), LaidOut ks hs →
      ¬ '\n' :: t <+: linesText ks := by
    intro ks hs t hks hp
    obtain ⟨u, hu, -⟩ := List.cons_prefix_iff.mp hp
    exact hks.head_linesText (by rw [hu, List.head?_cons])
  induction h with
  | nil => simp [linesText]
  | line hl hls ih =>
    rw [linesText_cons]
    intro hi
    rcases List.infix_cons_iff.mp (infix_append_of_not_mem hl.single.1 hi) with hp | hi
    · exact hstart _ hls (List.cons_prefix_cons.mp hp).2
    · exact ih hi
  | gap hl hh hls ih =>
    rw [linesText_cons, linesText_cons, List.nil_append]
    intro hi
    rcases List.infix_cons_iff.mp (infix_append_of_not_mem hl.single.1 hi) with hp | hi
    · exact hstart _ hls (List.cons_prefix_cons.mp (List.cons_prefix_cons.mp hp).2).2
    rcases List.infix_cons_iff.mp hi with hp | hi
    · exact hstart _ hls (List.cons_prefix_cons.mp hp).2
    · exact ih hi

theorem final_linesText (h : LaidOut ls gs) (hne : ls ≠ []) :
    ∃ init, linesText ls = init ++ ['\n'] ∧ init.getLast? ≠ some '\n' := by
  rcases List.eq_nil_or_concat' ls with rfl | ⟨ls, l, rfl⟩
  · exact absurd rfl hne
  have hl : l ≠ [] := by simpa using h.getLast_ne_nil
  refine ⟨linesText ls ++ l, by simp [linesText], ?_⟩
  rw [List.getLast?_append, List.getLast?_eq_some_getLast hl, Option.some_or]
  intro hlast
  refine (h.forall_mem l (by simp)).1 ?_
  rw [← Option.some.inj hlast]
  exact List.getLast_mem hl

theorem neat (h : LaidOut ls gs) (hne : ls ≠ []) : Neat (linesText ls) gs where
  leading := h.head_linesText
  final := h.final_linesText hne
  carriage := h.not_mem_linesText
  gaps := h.not_infix_linesText
  lines := ⟨ls, rfl, fun l hl => ⟨(h.forall_mem l hl).1, (h.forall_mem l hl).2.2⟩, h⟩

end LaidOut

/-- The finished page is the text of its lines. -/
theorem Page.Follows.finish {p : Page} {depth : Nat} {s : Starts} (h : p.Follows depth s) :
    ∃ ls, LaidOut ls s.all ∧ p.finish.toList = linesText ls := by
  obtain ⟨ls, hls, hgap⟩ := Page.closeGap_follows (Page.flush_follows h)
  refine ⟨ls, hls, ?_⟩
  rw [Page.finish, String.toList_ofList, Page.finishChars, hgap, List.reverse_reverse]
  rfl

theorem Page.Follows.isEmpty_iff {p : Page} {depth : Nat} {s : Starts} (h : p.Follows depth s) :
    p.isEmpty = true ↔ s.all = [] := by
  obtain ⟨ls, hls, hdone⟩ := h.done
  have hended : p.done = [] ↔ s.ended = [] := by
    rw [← hls.nil_iff]
    rcases hdone with hd | ⟨hne, hd⟩
    · rw [hd, List.reverse_eq_nil_iff]
    · simp [hd, hne]
  rw [Page.isEmpty, Bool.and_eq_true, List.isEmpty_iff, List.isEmpty_iff, hended,
    h.current_eq_nil_iff, Starts.all, List.append_eq_nil_iff, Option.toList_eq_nil_iff]

/-- **The layout of every script.**  Whatever edits are made, and wherever they are stopped, the
finished page is empty exactly if the page is; otherwise its text is laid out by the starts of its
lines, among which are the ends of all blocks, in order. -/
theorem layout_of_every_script (settings : Settings) (es : List Edit) :
    let p := (Step.runAll settings .blank (Edit.toSteps es)).draft.page
    (p.finish = "" ↔ p.isEmpty = true) ∧
      (p.isEmpty = true ∨ Neat p.finish.toList (Edit.starts es)) ∧
      (Edit.starts es).filter (·.closes) = (Edit.allGlyphs 0 es).filter (·.closes) := by
  intro p
  have hp : p.Follows 0 (Starts.readAll {} (Edit.allGlyphs 0 es)) :=
    (Edit.runAll_follows settings Page.follows_blank es).1
  obtain ⟨ls, hls, hfinish⟩ := hp.finish
  have hempty : p.isEmpty = true ↔ ls = [] := by rw [hp.isEmpty_iff, hls.nil_iff]
  refine ⟨?_, ?_, Edit.filter_closes_readAll_allGlyphs {} 0 es⟩
  · rw [hempty, ← String.toList_inj, hfinish]
    exact linesText_eq_nil_iff
  · by_cases hne : ls = []
    · exact Or.inl (hempty.mpr hne)
    · rw [hfinish]
      exact Or.inr (hls.neat hne)

end InterfaceGen
