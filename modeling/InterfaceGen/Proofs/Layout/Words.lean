import InterfaceGen.Layout.Script
import InterfaceGen.Proofs.Layout.Printer

/-!
# The words on a page

A page changes white space only.  It drops it, collapses it or adds it, but it never takes a word
apart nor puts two words together, so that the words on a page are the words of the texts that were
put there.  Carriage returns are the exception: they are white space, but the page drops them
without a trace, so that they do not end words.

A text is read character by character by a reader that holds the words so far and the word that is
still open (`WordReader`).  The reader of a page has read what is on the page (`Page.reader`), and
every operation moves it on by the characters that are put on the page:

* `pushChar_reads`, `endLine_reads`: what one character and the end of a line do to it;
* `append_reads`, `line_reads`: what whole texts do to it;
* `runAll_sound`: the pages of every script can be read so;
* `words_finish`: the words of the finished page are those of its reader.
-/

namespace InterfaceGen

namespace Text

/-- A reader of words. -/
structure WordReader where
  /-- The words that have ended. -/
  ended : List (List Char) := []
  /-- The open word, backwards; there is none if it is empty. -/
  word : List Char := []

namespace WordReader

/-- All words, the open one too. -/
def all (r : WordReader) : List (List Char) :=
  if r.word.isEmpty then r.ended else r.ended ++ [r.word.reverse]

/-- The reader after one more character. -/
def read (r : WordReader) (c : Char) : WordReader :=
  if isBlank c then ⟨r.all, []⟩ else ⟨r.ended, c :: r.word⟩

/-- The reader after more characters. -/
def readAll (r : WordReader) (cs : List Char) : WordReader :=
  cs.foldl read r

theorem readAll_append (r : WordReader) (a b : List Char) :
    r.readAll (a ++ b) = (r.readAll a).readAll b :=
  List.foldl_append

theorem readAll_concat (r : WordReader) (cs : List Char) (c : Char) :
    r.readAll (cs ++ [c]) = (r.readAll cs).read c :=
  readAll_append r cs [c]

theorem read_blank (r : WordReader) {c : Char} (hc : isBlank c = true) :
    r.read c = ⟨r.all, []⟩ := by
  rw [read, if_pos hc]

/-- Between words, white space changes nothing. -/
theorem read_blank_of_word {r : WordReader} (hr : r.word = []) {c : Char}
    (hc : isBlank c = true) : r.read c = r := by
  obtain ⟨ended, word⟩ := r
  subst hr
  rw [read_blank _ hc]
  rfl

theorem readAll_blank_of_word {r : WordReader} (hr : r.word = []) {cs : List Char}
    (hcs : ∀ c ∈ cs, isBlank c = true) : r.readAll cs = r := by
  induction cs with
  | nil => rfl
  | cons c cs ih =>
    have hstep : r.readAll (c :: cs) = (r.read c).readAll cs := rfl
    rw [hstep, read_blank_of_word hr (hcs c List.mem_cons_self),
      ih fun d hd => hcs d (List.mem_cons_of_mem c hd)]

/-- White space between the end of a word and more white space changes nothing. -/
theorem read_blank_readAll_blank (r : WordReader) {cs : List Char} {c : Char}
    (hcs : ∀ d ∈ cs, isBlank d = true) (hc : isBlank c = true) :
    (r.readAll cs).read c = r.read c := by
  cases cs with
  | nil => rfl
  | cons d cs =>
    have hd := hcs d List.mem_cons_self
    have hrest : ∀ e ∈ cs, isBlank e = true := fun e he => hcs e (List.mem_cons_of_mem d he)
    have hcons : r.readAll (d :: cs) = (r.read d).readAll cs := rfl
    rw [hcons, read_blank r hd, readAll_blank_of_word rfl hrest, read_blank_of_word rfl hc,
      read_blank r hc]

/-- What is read behind the open word: its end is the first piece between white space. -/
theorem all_readAll (r : WordReader) (cs : List Char) :
    ∃ piece pieces, splitWhen isBlank cs = piece :: pieces ∧
      (r.readAll cs).all =
        r.ended ++ ((r.word.reverse ++ piece) :: pieces).filter (!·.isEmpty) := by
  induction cs generalizing r with
  | nil =>
    refine ⟨[], [], rfl, ?_⟩
    show r.all = _
    rw [all]
    cases r.word <;> simp
  | cons c cs ih =>
    have hcons : r.readAll (c :: cs) = (r.read c).readAll cs := rfl
    obtain ⟨piece, pieces, hsplit, hall⟩ := ih (r.read c)
    rw [hcons, hall]
    cases hc : isBlank c with
    | true =>
      refine ⟨[], piece :: pieces, by simp [splitWhen, hc, hsplit], ?_⟩
      rw [read_blank r hc, all]
      cases r.word <;> simp
    | false =>
      refine ⟨c :: piece, pieces, by simp [splitWhen, hc, hsplit], ?_⟩
      simp [read, hc]

/-- Between words, what is read are the words of the text. -/
theorem all_readAll_of_word {r : WordReader} (hr : r.word = []) (cs : List Char) :
    (r.readAll cs).all = r.ended ++ words cs := by
  obtain ⟨piece, pieces, hsplit, hall⟩ := r.all_readAll cs
  rw [hall, hr, words, hsplit]
  rfl

/-- So they are behind white space. -/
theorem all_readAll_append_cons (r : WordReader) (a : List Char) {c : Char} (hc : isBlank c = true)
    (b : List Char) : (r.readAll (a ++ c :: b)).all = (r.readAll a).all ++ words b := by
  have hcons : r.readAll (a ++ c :: b) = ((r.readAll a).read c).readAll b := by
    rw [readAll_append]
    rfl
  rw [hcons, read_blank _ hc, all_readAll_of_word rfl]

end WordReader

/-- The words of a text are those that a reader finds in it. -/
theorem words_eq_all (cs : List Char) : words cs = (WordReader.readAll {} cs).all :=
  (WordReader.all_readAll_of_word (r := {}) rfl cs).symm

theorem words_append_cons (a : List Char) {c : Char} (hc : isBlank c = true) (b : List Char) :
    words (a ++ c :: b) = words a ++ words b := by
  rw [words_eq_all, WordReader.all_readAll_append_cons _ _ hc, ← words_eq_all]

/-- A text without carriage returns, as it gets onto a page. -/
def withoutReturns (cs : List Char) : List Char :=
  cs.filter (· ≠ '\r')

theorem withoutReturns_append (a b : List Char) :
    withoutReturns (a ++ b) = withoutReturns a ++ withoutReturns b :=
  List.filter_append ..

theorem withoutReturns_eq_self {cs : List Char} (h : '\r' ∉ cs) : withoutReturns cs = cs :=
  List.filter_eq_self.mpr fun c hc => by simpa using fun hr : c = '\r' => h (hr ▸ hc)

end Text

open Text (WordReader withoutReturns withoutReturns_append)

namespace Page

/-! ### The reader of a page -/

/-- The text on a page so far. -/
def content (p : Page) : List Char :=
  p.done.reverse.flatMap (· ++ ['\n']) ++ p.current.reverse ++ if p.pending then [' '] else []

/-- A reader who has read the text on a page. -/
def reader (p : Page) : WordReader :=
  WordReader.readAll {} p.content

/-- White space is only ever due, and literals only ever open, on a line that has begun. -/
structure Sound (p : Page) : Prop where
  pending : p.pending = true → p.current ≠ []
  literal : p.mode ≠ .code → p.pending = false ∧ p.current ≠ []

theorem sound_of_code {p : Page} (hp : p.pending = false) (hm : p.mode = .code) : Sound p where
  pending h := by simp [hp] at h
  literal h := absurd hm h

theorem AtStart.sound {p : Page} (h : AtStart p) : Sound p :=
  sound_of_code h.pending h.mode

/-- The reader of the finished lines is between words. -/
theorem word_readAll_lines (ls : List (List Char)) :
    (WordReader.readAll {} (ls.flatMap (· ++ ['\n']))).word = [] := by
  rcases List.eq_nil_or_concat' ls with rfl | ⟨ls, l, rfl⟩
  · rfl
  · rw [List.flatMap_append, List.flatMap_singleton, ← List.append_assoc,
      WordReader.readAll_concat, WordReader.read_blank _ (by decide)]

theorem reader_of_current {p : Page} (hp : p.Sound) (hc : p.current = []) :
    p.reader = WordReader.readAll {} (p.done.reverse.flatMap (· ++ ['\n'])) := by
  have hpending : p.pending = false := by
    rw [Bool.eq_false_iff]
    exact fun h => hp.pending h hc
  rw [reader, content, hc, hpending]
  simp

/-- Nothing on the open line means that the reader is between words. -/
theorem word_reader {p : Page} (hp : p.Sound) (hc : p.current = []) : p.reader.word = [] := by
  rw [reader_of_current hp hc]
  exact word_readAll_lines _

/-! ### What one character does -/

/-- **The end of a line.**  It is white space, also where it leaves no trace. -/
theorem endLine_reads {p : Page} (hp : p.Sound) :
    p.endLine.Sound ∧ p.endLine.reader = p.reader.read '\n' := by
  have hnewline : Text.isBlank '\n' = true := by decide
  by_cases hc : p.current = []
  · have hend : p.endLine = { p with
        done := if p.atGap then p.done else [] :: p.done, pending := false, mode := .code } := by
      rw [endLine, hc]
      rfl
    have hsound : p.endLine.Sound := by
      rw [hend]
      exact sound_of_code rfl rfl
    have hcurrent : p.endLine.current = [] := by rw [hend, hc]
    refine ⟨hsound, ?_⟩
    rw [WordReader.read_blank_of_word (word_reader hp hc) hnewline,
      reader_of_current hsound hcurrent, reader_of_current hp hc, hend]
    cases p.atGap with
    | true => rfl
    | false =>
      show WordReader.readAll {} (([] :: p.done).reverse.flatMap (· ++ ['\n'])) = _
      rw [List.reverse_cons, List.flatMap_append, List.flatMap_singleton, List.nil_append,
        WordReader.readAll_concat, WordReader.read_blank_of_word (word_readAll_lines _) hnewline]
  · have hend : p.endLine = { p with
        done := (p.current.dropWhile Text.isBlank).reverse :: p.done, current := [],
        pending := false, mode := .code } := by
      rw [endLine, if_neg (by simpa using hc)]
    have hsound : p.endLine.Sound := by
      rw [hend]
      exact sound_of_code rfl rfl
    refine ⟨hsound, ?_⟩
    -- What is trimmed at the end of the line is white space, as is a space that was due.
    obtain ⟨trailing, htrailing, hline⟩ : ∃ trailing, (∀ c ∈ trailing, Text.isBlank c = true) ∧
        p.current.reverse = (p.current.dropWhile Text.isBlank).reverse ++ trailing := by
      refine ⟨(p.current.takeWhile Text.isBlank).reverse, ?_, ?_⟩
      · intro c hc
        exact List.mem_takeWhile_imp (List.mem_reverse.mp hc)
      · rw [← List.reverse_append, List.takeWhile_append_dropWhile]
    have hspace : ∀ c ∈ trailing ++ (if p.pending then [' '] else []), Text.isBlank c = true := by
      intro c hc
      rcases List.mem_append.mp hc with h | h
      · exact htrailing c h
      · cases hpending : p.pending with
        | true =>
          rw [hpending] at h
          obtain rfl : c = ' ' := by simpa using h
          decide
        | false => simp [hpending] at h
    rw [reader_of_current hsound (by rw [hend]), hend, reader, content, hline,
      List.append_assoc, List.append_assoc, ← List.append_assoc, WordReader.readAll_append,
      WordReader.read_blank_readAll_blank _ hspace hnewline, ← WordReader.readAll_concat]
    show WordReader.readAll {} (List.flatMap _ (_ :: p.done).reverse) = _
    rw [List.reverse_cons, List.flatMap_append, List.flatMap_singleton, List.append_assoc]

/-- **One character.**  The page reads it, unless it is a carriage return. -/
theorem pushChar_reads {p : Page} (hp : p.Sound) {c : Char} (hr : c ≠ '\r') :
    (p.pushChar c).Sound ∧ (p.pushChar c).reader = p.reader.read c := by
  rw [pushChar, if_neg hr]
  split_ifs with hn hmode hb
  · subst hn
    exact endLine_reads hp
  · -- Inside a literal the character follows the open line.
    obtain ⟨hpending, hcurrent⟩ := hp.literal hmode
    refine ⟨⟨fun _ => by simp [pushLiteral], fun _ => ⟨hpending, by simp [pushLiteral]⟩⟩, ?_⟩
    rw [reader, reader, ← WordReader.readAll_concat]
    simp [content, pushLiteral, hpending]
  · -- White space is remembered on a line that has begun, and else it stands between words.
    have hcode : p.mode = .code := not_not.mp hmode
    refine ⟨⟨fun h => ?_, fun h => absurd hcode h⟩, ?_⟩
    · rcases Bool.or_eq_true_iff.mp h with h | h
      · exact hp.pending h
      · simpa using h
    · by_cases hc : p.current = []
      · have hpending : p.pending = false := by
          rw [Bool.eq_false_iff]
          exact fun h => hp.pending h hc
        rw [WordReader.read_blank_of_word (word_reader hp hc) hb]
        simp [reader, content, hc, hpending]
      · -- One space stands for all white space between two words.
        have hspace : Text.isBlank ' ' = true := by decide
        have hcontent : ∀ q : Page, q.pending = true → q.content =
            (q.done.reverse.flatMap (· ++ ['\n']) ++ q.current.reverse) ++ [' '] := by
          intro q hq
          rw [content, hq]
          rfl
        rw [reader, hcontent _ (by simp [hc]), WordReader.readAll_concat,
          WordReader.read_blank _ hspace]
        cases hpending : p.pending with
        | false => simp [reader, content, hpending, WordReader.read_blank _ hb]
        | true =>
          rw [reader, hcontent p hpending, WordReader.readAll_concat,
            WordReader.read_blank _ hspace, WordReader.read_blank_of_word rfl hb]
  · refine ⟨⟨fun h => by simp [pushCode] at h, fun _ => by simp [pushCode]⟩, ?_⟩
    have hpush : (p.pushCode c).content =
        p.done.reverse.flatMap (· ++ ['\n']) ++ p.base.reverse ++ [c] := by
      simp [content, pushCode, base]
    rw [reader, hpush, WordReader.readAll_concat]
    congr 1
    by_cases hc : p.current = []
    · -- The indentation stands between words.
      rw [reader_of_current hp hc, WordReader.readAll_append, base, hc]
      refine WordReader.readAll_blank_of_word (word_readAll_lines _) fun d hd => ?_
      have hspace : d = ' ' := List.eq_of_mem_replicate (List.mem_reverse.mp hd)
      rw [hspace]
      decide
    · rw [reader, content, base, if_neg (by simpa using hc)]
      cases p.pending <;> simp

/-! ### What texts do -/

/-- **Characters.**  The page reads them all but the carriage returns. -/
theorem appendChars_reads {p : Page} (hp : p.Sound) (cs : List Char) :
    (p.appendChars cs).Sound ∧
      (p.appendChars cs).reader = p.reader.readAll (withoutReturns cs) := by
  have hchar : ∀ {q : Page}, q.Sound → ∀ c : Char, (q.pushChar c).Sound ∧
      (q.pushChar c).reader = q.reader.readAll (withoutReturns [c]) := by
    intro q hq c
    by_cases hr : c = '\r'
    · subst hr
      exact ⟨hq, rfl⟩
    · have hkeep : withoutReturns [c] = [c] := by simp [withoutReturns, hr]
      rw [hkeep]
      exact pushChar_reads hq hr
  induction p, cs using appendChars.induct with
  | case1 p => exact ⟨hp, rfl⟩
  | case2 p c => exact hchar hp c
  | case3 p c d cs hcd ih =>
    -- A doubled quote is put on the open line as two characters.
    obtain ⟨hmode, rfl, rfl⟩ := hcd
    obtain ⟨hpending, hcurrent⟩ := hp.literal (by simp [hmode])
    rw [appendChars_doubled ⟨hmode, rfl, rfl⟩]
    have hsound : Sound { p with current := '"' :: '"' :: p.current } :=
      ⟨fun _ => by simp, fun _ => ⟨hpending, by simp⟩⟩
    obtain ⟨hs, hreader⟩ := ih hsound
    refine ⟨hs, hreader.trans ?_⟩
    have hquotes : reader { p with current := '"' :: '"' :: p.current } =
        p.reader.readAll ['"', '"'] := by
      rw [reader, reader, ← WordReader.readAll_append]
      simp [content, hpending]
    rw [hquotes, ← WordReader.readAll_append]
    rfl
  | case4 p c d cs hcd ih =>
    rw [appendChars_pushChar hcd]
    obtain ⟨hfirst, hreader⟩ := hchar hp c
    obtain ⟨hs, hrest⟩ := ih hfirst
    refine ⟨hs, ?_⟩
    rw [hrest, hreader, ← WordReader.readAll_append, ← withoutReturns_append, List.singleton_append]

theorem append_reads {p : Page} (hp : p.Sound) (text : String) :
    (p.append text).Sound ∧
      (p.append text).reader = p.reader.readAll (withoutReturns text.toList) :=
  appendChars_reads hp text.toList

theorem line_reads {p : Page} (hp : p.Sound) (text : String) :
    (p.line text).Sound ∧
      (p.line text).reader = (p.reader.readAll (withoutReturns text.toList)).read '\n' := by
  obtain ⟨hs, hreader⟩ := append_reads hp text
  obtain ⟨hend, hread⟩ := endLine_reads hs
  exact ⟨hend, by rw [line, hread, hreader]⟩

theorem lines_sound {p : Page} (hp : p.Sound) (texts : List String) : (p.lines texts).Sound := by
  induction texts generalizing p with
  | nil => exact hp
  | cons text texts ih => exact ih (line_reads hp text).1

theorem join_sound {p : Page} (hp : p.Sound) (separator : String) (items : List String) :
    (p.join separator items).Sound := by
  induction p, items using join.induct separator with
  | case1 p => exact hp
  | case2 p x => exact (append_reads hp x).1
  | case3 p x y xs ih => exact ih (append_reads (append_reads hp x).1 separator).1

/-- The finished lines and the blocks around do not matter. -/
theorem Sound.rebase {p : Page} (hp : p.Sound) (done : List (List Char)) (depth : Nat) :
    Sound { p with done, depth } :=
  ⟨hp.pending, hp.literal⟩

theorem openBlock_sound {p : Page} (hp : p.Sound) : p.openBlock.Sound :=
  (line_reads hp "\x7b").1.rebase _ _

theorem flush_sound {p : Page} (hp : p.Sound) : p.flush.Sound := by
  rw [flush]
  split_ifs
  · exact hp
  · exact (endLine_reads hp).1

theorem closeBlock_sound {p : Page} (hp : p.Sound) : p.closeBlock.Sound := by
  have hflush := flush_sound hp
  have hgap : (closeGap { p.flush with depth := p.flush.depth - 1 }).Sound := by
    rw [closeGap_eq]
    exact hflush.rebase _ _
  exact (line_reads hgap "\x7d").1

/-- The words of a finished page are those of its reader. -/
theorem words_finish {p : Page} (hp : p.Sound) : Text.words p.finishChars = p.reader.all := by
  -- Ending the open line and dropping a blank line at the end change no word.
  have hflush : p.flush.current = [] ∧ p.flush.reader.all = p.reader.all := by
    rw [flush]
    split_ifs with hc
    · exact ⟨List.isEmpty_iff.mp hc, rfl⟩
    · refine ⟨by rw [endLine, if_neg hc], ?_⟩
      rw [(endLine_reads hp).2, WordReader.read_blank _ (by decide)]
      rfl
  obtain ⟨hcurrent, hall⟩ := hflush
  rw [← hall, reader_of_current (flush_sound hp) hcurrent, finishChars, Text.words_eq_all, closeGap]
  split
  · next done hdone =>
    rw [hdone, List.reverse_cons, List.flatMap_append, List.flatMap_singleton, List.nil_append,
      WordReader.readAll_concat, WordReader.read_blank_of_word (word_readAll_lines _) (by decide)]
  · rfl

end Page

/-! ### Scripts -/

namespace Draft

theorem anchor_sound {d : Draft} (hd : d.page.Sound) (s : Settings)
    (location? : Option Location) : (d.anchor s location?).page.Sound := by
  obtain ⟨texts, htexts⟩ := d.anchor_lines s location?
  rw [htexts]
  exact Page.lines_sound hd texts

theorem resetAnchor_sound {d : Draft} (hd : d.page.Sound) (s : Settings) :
    (d.resetAnchor s).page.Sound := by
  rw [resetAnchor]
  split_ifs
  · exact (Page.line_reads hd _).1
  · exact hd

theorem lead_sound {d : Draft} (hd : d.page.Sound) (s : Settings) (documentation? : Option String)
    (location? : Option Location) (attributes : List String) :
    (d.lead s documentation? location? attributes).page.Sound := by
  obtain ⟨before, hbefore⟩ := d.lead_lines s documentation? location? attributes
  rw [hbefore]
  exact Page.lines_sound hd _

theorem method_sound {d : Draft} (hd : d.page.Sound) (s : Settings) (m : MethodDecl) :
    (d.method s m).page.Sound := by
  have hlead := lead_sound hd s m.documentation m.location m.attributes
  rw [method, onPage, methodSignature_eq]
  exact (Page.line_reads hlead _).1

theorem property_sound {d : Draft} (hd : d.page.Sound) (s : Settings) (x : PropertyDecl) :
    (d.property s x).page.Sound := by
  have hlead := lead_sound hd s x.documentation x.location x.attributes
  rw [property, onPage, propertySignature_eq]
  exact (Page.line_reads hlead _).1

end Draft

mutual

/-- One step keeps the page readable. -/
theorem run_sound (s : Settings) {d : Draft} (hd : d.page.Sound) :
    ∀ step : Step, (Step.run s d step).draft.page.Sound
  | .append text => (Page.append_reads hd text).1
  | .line text => (Page.line_reads hd text).1
  | .join separator items => Page.join_sound hd separator items
  | .block body =>
    have hopen : (d.onPage Page.openBlock).page.Sound := Page.openBlock_sound hd
    Page.closeBlock_sound (runAll_sound s hopen body)
  | .stop => hd
  | .method m => Draft.method_sound hd s m
  | .property x => Draft.property_sound hd s x
  | .anchor location? => Draft.anchor_sound hd s location?
  | .resetAnchor => Draft.resetAnchor_sound hd s

/-- **Scripts.**  So does a list of steps. -/
theorem runAll_sound (s : Settings) {d : Draft} (hd : d.page.Sound) :
    ∀ steps : List Step, (Step.runAll s d steps).draft.page.Sound
  | [] => hd
  | step :: steps => by
    rw [Step.runAll]
    split_ifs
    · exact run_sound s hd step
    · exact runAll_sound s (run_sound s hd step) steps

end

/-! ### The words of a line -/

/-- The words of a text together are the text without its white space. -/
theorem Text.flatten_words (cs : List Char) :
    (Text.words cs).flatten = cs.filter (!Text.isBlank ·) := by
  have hflatten : ∀ pieces : List (List Char),
      (pieces.filter (!·.isEmpty)).flatten = pieces.flatten := by
    intro pieces
    induction pieces with
    | nil => rfl
    | cons piece pieces ih => cases piece <;> simp [ih]
  rw [Text.words, hflatten, Text.flatten_splitWhen]

/-- **Lines.**  A line that is laid out has the words of the line. -/
theorem Line.words_normal {cs : List Char} (hn : '\n' ∉ cs) :
    Text.words (Line.normal cs) = Text.words (withoutReturns cs) := by
  -- Both are the words of a page with this line only.
  have hnewline : Text.isBlank '\n' = true := by decide
  have hstart := Page.atStart_blank
  obtain ⟨hsound, hreader⟩ := Page.appendChars_reads hstart.sound cs
  obtain ⟨hsound, hend⟩ := Page.endLine_reads hsound
  have hread : (Page.blank.appendChars cs).endLine.reader.all = Text.words (withoutReturns cs) := by
    rw [hend, hreader, Text.WordReader.read_blank _ hnewline, Text.words_eq_all]
    rfl
  rw [Page.endLine_appendChars hstart hn] at hread hsound
  rw [← hread, ← Page.words_finish hsound, Page.addLine, Page.finishChars]
  cases hline : Line.normal cs with
  | nil => rfl
  | cons c line =>
    have hline : (c :: line) ++ ['\n'] = (c :: line) ++ '\n' :: [] := rfl
    show _ = Text.words (([] ++ (c :: line)) ++ ['\n'] ++ [])
    rw [List.append_nil, List.nil_append, hline, Text.words_append_cons _ hnewline]
    exact (List.append_nil _).symm

/-- So it has each character that is not white space as often as the line. -/
theorem Line.count_normal {cs : List Char} (hn : '\n' ∉ cs) {c : Char}
    (hc : Text.isBlank c = false) : (Line.normal cs).count c = cs.count c := by
  have hreturn : Text.isBlank '\r' = true := by decide
  have hcount : ∀ ds : List Char, (ds.filter (!Text.isBlank ·)).count c = ds.count c :=
    fun ds => List.count_filter (by simp [hc])
  have hkept : (withoutReturns cs).filter (!Text.isBlank ·) = cs.filter (!Text.isBlank ·) := by
    rw [withoutReturns, List.filter_filter]
    refine List.filter_congr fun d _ => ?_
    by_cases hd : d = '\r'
    · simp [hd, hreturn]
    · simp [hd]
  rw [← hcount, ← Text.flatten_words, Line.words_normal hn, Text.flatten_words, hkept, hcount]

end InterfaceGen
