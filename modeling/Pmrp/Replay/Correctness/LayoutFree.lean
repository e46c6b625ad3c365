import Pmrp.Replay.Loader

/-!
# `Replay.Correctness.LayoutFree` — a dataset however its events are written down

Events are laid out over files, one encoding a line and blank lines between. Loading cuts a text at every line boundary
of `str.splitlines` and drops the blank pieces. An encoding of an object has something before and after each character
between its braces, so a line that is cut gives two pieces at least: as many events come back exactly when no line is.
-/

namespace Pmrp
namespace ReplayLoader

open ReplayRecords

/-! ## Pieces of a text -/

theorem universalNewlines_eq {cs : List Char} (h : '\r' ∉ cs) : universalNewlines cs = cs := by
  fun_induction universalNewlines cs with
  | case1 => rfl
  | case2 cs ih => exact absurd List.mem_cons_self h
  | case3 cs _ ih => exact absurd List.mem_cons_self h
  | case4 c cs _ _ ih => rw [ih fun hmem => h (List.mem_cons_of_mem c hmem)]

/-- What is between line boundaries and not blank. -/
def pieces (cs : List Char) : List (List Char) := (cs.splitOnP isLineBoundary).filter fun piece => !isBlank piece

theorem modifyHead_cons {c : Char} {lines : List (List Char)} (h : lines ≠ []) :
    lines.modifyHead (List.cons c) = consFirst c lines := by
  cases lines with
  | nil => exact absurd rfl h
  | cons line lines => rfl

/-- `splitlines` has no empty line at the end of a text. -/
theorem splitOnP_eq_splitlines {cs : List Char} (h : '\r' ∉ cs) :
    cs.splitOnP isLineBoundary = splitlines cs ∨ cs.splitOnP isLineBoundary = splitlines cs ++ [[]] := by
  fun_induction splitlines cs with
  | case1 => exact Or.inr rfl
  | case2 cs ih => exact absurd List.mem_cons_self h
  | case3 c cs _ hboundary ih =>
      rw [List.splitOnP_cons_eq_if_modifyHead, if_pos hboundary]
      rcases ih fun hmem => h (List.mem_cons_of_mem c hmem) with heq | heq
      · exact Or.inl (by rw [heq])
      · exact Or.inr (by rw [heq]; rfl)
  | case4 c cs _ hboundary ih =>
      rw [List.splitOnP_cons_eq_if_modifyHead, if_neg hboundary]
      rcases ih fun hmem => h (List.mem_cons_of_mem c hmem) with heq | heq
      · refine Or.inl ?_
        rw [modifyHead_cons (List.splitOnP_ne_nil _ _), heq]
      · rw [heq]
        cases splitlines cs with
        | nil => exact Or.inl rfl
        | cons line lines => exact Or.inr rfl

theorem filter_splitlines {cs : List Char} (h : '\r' ∉ cs) :
    (splitlines cs).filter (fun piece => !isBlank piece) = pieces cs := by
  unfold pieces
  rcases splitOnP_eq_splitlines h with heq | heq
  · rw [heq]
  · rw [heq, List.filter_append]
    exact (List.append_nil _).symm

theorem pieces_append_cons {boundary : Char} (h : isLineBoundary boundary = true) (before after : List Char) :
    pieces (before ++ boundary :: after) = pieces before ++ pieces after := by
  unfold pieces
  rw [List.splitOnP_append_cons _ _ h, List.filter_append]

theorem isBlank_cons {c : Char} {cs : List Char} : isBlank (c :: cs) = (isSpace c && isBlank cs) := rfl

/-- A blank line has no pieces. -/
theorem pieces_of_blank {cs : List Char} (h : isBlank cs = true) : pieces cs = [] := by
  have hpieces : ∀ piece ∈ cs.splitOnP isLineBoundary, isBlank piece = true := by
    induction cs with
    | nil =>
        intro piece hpiece
        rw [List.splitOnP_nil, List.mem_singleton] at hpiece
        rw [hpiece]
        rfl
    | cons c cs ih =>
        rw [isBlank_cons, Bool.and_eq_true] at h
        have hrest := ih h.2
        rw [List.splitOnP_cons_eq_if_modifyHead]
        split_ifs
        · rw [List.forall_mem_cons]
          exact ⟨rfl, hrest⟩
        · cases hlines : cs.splitOnP isLineBoundary with
          | nil => exact absurd hlines (List.splitOnP_ne_nil _ _)
          | cons line lines =>
              rw [hlines, List.forall_mem_cons] at hrest
              show ∀ piece ∈ (c :: line) :: lines, isBlank piece = true
              rw [List.forall_mem_cons, isBlank_cons, h.1, hrest.1]
              exact ⟨rfl, hrest.2⟩
  unfold pieces
  rw [List.filter_eq_nil_iff]
  intro piece hpiece
  rw [hpieces piece hpiece]
  decide

theorem isSpace_of_boundary {c : Char} (h : isLineBoundary c = true) : isSpace c = true := by
  -- every range of boundaries lies within a range of spaces
  have hrange : ∀ {lo hi lo' hi' : Char}, lo'.toNat ≤ lo.toNat → hi.toNat ≤ hi'.toNat →
      inRange lo hi c = true → inRange lo' hi' c = true := by
    intro lo hi lo' hi' hlo hhi hin
    have hbounds := of_decide_eq_true hin
    exact decide_eq_true ⟨hlo.trans hbounds.1, hbounds.2.trans hhi⟩
  unfold isLineBoundary at h
  unfold isSpace
  simp only [Bool.or_eq_true] at h ⊢
  rcases h with (((hfeeds | hseparators) | hnext) | hline) | hparagraph
  · have htabs := @hrange '\n' '\r' '\t' '\r' (by decide) (by decide) hfeeds
    simp only [htabs, true_or]
  · have hcontrols := @hrange '\x1c' '\x1e' '\x1c' ' ' (by decide) (by decide) hseparators
    simp only [hcontrols, true_or, or_true]
  · simp only [hnext, true_or, or_true]
  · simp only [hline, true_or, or_true]
  · simp only [hparagraph, true_or, or_true]

/-- A text with something in it has a piece. -/
theorem pieces_ne_nil {c : Char} {cs : List Char} (hmem : c ∈ cs) (hspace : isSpace c = false) : pieces cs ≠ [] := by
  have hexists : ∃ piece ∈ cs.splitOnP isLineBoundary, isBlank piece = false := by
    induction cs with
    | nil => cases hmem
    | cons d cs ih =>
        rw [List.splitOnP_cons_eq_if_modifyHead]
        split_ifs with hboundary
        · rcases List.mem_cons.mp hmem with rfl | hmem
          · rw [isSpace_of_boundary hboundary] at hspace
            cases hspace
          · obtain ⟨piece, hpiece, hblank⟩ := ih hmem
            exact ⟨piece, List.mem_cons_of_mem _ hpiece, hblank⟩
        · cases hlines : cs.splitOnP isLineBoundary with
          | nil => exact absurd hlines (List.splitOnP_ne_nil _ _)
          | cons line lines =>
              show ∃ piece ∈ (d :: line) :: lines, isBlank piece = false
              rcases List.mem_cons.mp hmem with rfl | hmem
              · exact ⟨c :: line, List.mem_cons_self, by rw [isBlank_cons, hspace, Bool.false_and]⟩
              · obtain ⟨piece, hpiece, hblank⟩ := ih hmem
                rw [hlines] at hpiece
                rcases List.mem_cons.mp hpiece with rfl | hpiece
                · exact ⟨d :: piece, List.mem_cons_self, by rw [isBlank_cons, hblank, Bool.and_false]⟩
                · exact ⟨piece, List.mem_cons_of_mem _ hpiece, hblank⟩
  obtain ⟨piece, hpiece, hblank⟩ := hexists
  refine List.ne_nil_of_mem (a := piece) (List.mem_filter.mpr ⟨hpiece, ?_⟩)
  rw [hblank]
  rfl

theorem pieces_eq_single {cs : List Char} (hblank : isBlank cs = false)
    (h : ∀ c ∈ cs, isLineBoundary c = false) : pieces cs = [cs] := by
  unfold pieces
  rw [List.splitOnP_eq_singleton h]
  exact List.filter_cons_of_pos (by rw [hblank]; rfl)

/-- The text of these lines. -/
def unlines : List (List Char) → List Char
  | [] => []
  | [line] => line
  | line :: lines => line ++ '\n' :: unlines lines

theorem pieces_unlines (lines : List (List Char)) : pieces (unlines lines) = lines.flatMap pieces := by
  fun_induction unlines lines with
  | case1 => rfl
  | case2 line => rw [List.flatMap_singleton]
  | case3 line lines _ ih => rw [pieces_append_cons rfl, ih, List.flatMap_cons]

theorem mem_unlines {c : Char} {lines : List (List Char)} (h : c ∈ unlines lines) :
    c = '\n' ∨ ∃ line ∈ lines, c ∈ line := by
  fun_induction unlines lines with
  | case1 => cases h
  | case2 line => exact Or.inr ⟨line, List.mem_cons_self, h⟩
  | case3 line lines _ ih =>
      rcases List.mem_append.mp h with hline | hrest
      · exact Or.inr ⟨line, List.mem_cons_self, hline⟩
      · rcases List.mem_cons.mp hrest with hnewline | hlines
        · exact Or.inl hnewline
        · refine (ih hlines).imp_right ?_
          rintro ⟨line', hline', hc⟩
          exact ⟨line', List.mem_cons_of_mem _ hline', hc⟩

/-! ## Layouts -/

/-- The line boundaries that JSON allows in a string. -/
def isSeparator (c : Char) : Bool := c == '\x85' || c == '\u2028' || c == '\u2029'

/-- The line is a JSON text of an object on one line, and the parser, which inverts encodings, reads an event from it
    that is the same in canonical JSON. -/
structure EncodesEvent (parsers : Parsers) (line : List Char) (event : EventEnvelope) : Prop where
  object : ∃ before middle after, line = before ++ '\x7b' :: middle ++ '\x7d' :: after ∧
    (∀ c ∈ before, c = ' ' ∨ c = '\t') ∧ ∀ c ∈ after, c = ' ' ∨ c = '\t'
  printable : ∀ c ∈ line, c = '\t' ∨ 32 ≤ c.toNat
  parses : ∃ parsed, eventFromJson parsers (String.ofList line) = .ok parsed ∧ parsed.canonical = event.canonical

/-- Lines with the encodings of these events in order, and blank ones. -/
inductive Laid (parsers : Parsers) : List EventEnvelope → List (List Char) → Prop
  | nil : Laid parsers [] []
  | blank {events : List EventEnvelope} {line : List Char} {lines : List (List Char)}
      (hblank : ∀ c ∈ line, isSpace c = true ∧ c ≠ '\r') (hrest : Laid parsers events lines) :
      Laid parsers events (line :: lines)
  | event {event : EventEnvelope} {events : List EventEnvelope} {line : List Char} {lines : List (List Char)}
      (hevent : EncodesEvent parsers line event) (hrest : Laid parsers events lines) :
      Laid parsers (event :: events) (line :: lines)

/-- One of the files that the events are split over. -/
structure FileLayout where
  path : FilePath
  events : List EventEnvelope
  lines : List (List Char)

structure FileLayout.Holds (runtime : Runtime) (file : FileLayout) : Prop where
  suffix : file.path.suffix = ".jsonl"
  content : runtime.readBytes file.path = some (String.ofList (unlines file.lines)).toUTF8
  events_ne : file.events ≠ []
  laid : Laid runtime.toParsers file.events file.lines

/-- No line with an event has a separator. -/
def FileLayout.Unseparated (file : FileLayout) : Prop :=
  ∀ line ∈ file.lines, isBlank line = false → ∀ c ∈ line, isSeparator c = false

variable {parsers : Parsers} {line : List Char} {event : EventEnvelope}

theorem EncodesEvent.not_blank (h : EncodesEvent parsers line event) : isBlank line = false := by
  obtain ⟨before, middle, after, rfl, -, -⟩ := h.object
  refine Bool.eq_false_iff.mpr fun hblank => ?_
  have hbrace := List.all_eq_true.mp hblank '\x7b' (by simp)
  exact absurd hbrace (by decide)

theorem EncodesEvent.no_return (h : EncodesEvent parsers line event) : '\r' ∉ line := by
  intro hmem
  rcases h.printable '\r' hmem with heq | hle
  · exact absurd heq (by decide)
  · exact absurd hle (by decide)

/-- The only boundaries in an encoding are separators. -/
theorem EncodesEvent.boundary_iff (h : EncodesEvent parsers line event) {c : Char} (hc : c ∈ line) :
    isLineBoundary c = isSeparator c := by
  have hrange : ∀ lo hi : Char, 9 < lo.toNat → hi.toNat < 32 → inRange lo hi c = false := by
    intro lo hi hlo hhi
    refine decide_eq_false fun hin => ?_
    rcases h.printable c hc with rfl | hle
    · exact absurd hin.1 (by rw [show '\t'.toNat = 9 from rfl]; omega)
    · omega
  unfold isLineBoundary isSeparator
  rw [hrange _ _ (by decide) (by decide), hrange _ _ (by decide) (by decide)]
  rfl

theorem isSpace_of_separator {c : Char} (h : isSeparator c = true) : c ≠ ' ' ∧ c ≠ '\t' ∧ c ≠ '\x7b' ∧ c ≠ '\x7d' := by
  refine ⟨?_, ?_, ?_, ?_⟩ <;>
  · rintro rfl
    exact absurd h (by decide)

/-- A line that is cut has a piece before the cut and one after it. -/
theorem EncodesEvent.two_pieces (h : EncodesEvent parsers line event) {c : Char} (hc : c ∈ line)
    (hseparator : isSeparator c = true) : 2 ≤ (pieces line).length := by
  have hboundary : isLineBoundary c = true := (h.boundary_iff hc).trans hseparator
  obtain ⟨before, middle, after, rfl, hbefore, hafter⟩ := h.object
  obtain ⟨hspace, htab, hopen, hclose⟩ := isSpace_of_separator hseparator
  have hmiddle : c ∈ middle := by
    rcases List.mem_append.mp hc with hleft | hright
    · rcases List.mem_append.mp hleft with hmem | hmem
      · rcases hbefore c hmem with heq | heq
        · exact absurd heq hspace
        · exact absurd heq htab
      · rcases List.mem_cons.mp hmem with heq | hmem
        · exact absurd heq hopen
        · exact hmem
    · rcases List.mem_cons.mp hright with heq | hmem
      · exact absurd heq hclose
      · rcases hafter c hmem with heq | heq
        · exact absurd heq hspace
        · exact absurd heq htab
  -- the opening brace is in what comes before the cut, the closing one in what comes after
  obtain ⟨first, second, rfl⟩ := List.append_of_mem hmiddle
  have hsplit : before ++ '\x7b' :: (first ++ c :: second) ++ '\x7d' :: after =
      (before ++ '\x7b' :: first) ++ c :: (second ++ '\x7d' :: after) := by simp
  rw [hsplit, pieces_append_cons hboundary, List.length_append]
  have hfirst : pieces (before ++ '\x7b' :: first) ≠ [] :=
    @pieces_ne_nil '\x7b' _ (List.mem_append_right before List.mem_cons_self) (by decide)
  have hsecond : pieces (second ++ '\x7d' :: after) ≠ [] :=
    @pieces_ne_nil '\x7d' _ (List.mem_append_right second List.mem_cons_self) (by decide)
  have h1 := List.length_pos_iff.mpr hfirst
  have h2 := List.length_pos_iff.mpr hsecond
  omega

theorem EncodesEvent.one_piece (h : EncodesEvent parsers line event)
    (hunseparated : ∀ c ∈ line, isSeparator c = false) :
    pieces line = [line] :=
  pieces_eq_single h.not_blank fun c hc => (h.boundary_iff hc).trans (hunseparated c hc)

theorem EncodesEvent.some_piece (h : EncodesEvent parsers line event) : 1 ≤ (pieces line).length := by
  by_cases hall : ∀ c ∈ line, isSeparator c = false
  · rw [h.one_piece hall]
    exact le_rfl
  · simp only [not_forall, Bool.not_eq_false] at hall
    obtain ⟨c, hc, hseparator⟩ := hall
    have htwo := h.two_pieces hc hseparator
    omega

/-! ## Files -/

theorem Laid.no_return {events : List EventEnvelope} {lines : List (List Char)} (h : Laid parsers events lines) :
    ∀ line ∈ lines, '\r' ∉ line := by
  induction h with
  | nil =>
      intro line hline
      cases hline
  | blank hblank hrest ih =>
      rw [List.forall_mem_cons]
      exact ⟨fun hmem => (hblank '\r' hmem).2 rfl, ih⟩
  | event hevent hrest ih =>
      rw [List.forall_mem_cons]
      exact ⟨hevent.no_return, ih⟩

/-- The lines have a piece at least for each event. -/
theorem Laid.length_le {events : List EventEnvelope} {lines : List (List Char)} (h : Laid parsers events lines) :
    events.length ≤ (lines.flatMap pieces).length := by
  induction h with
  | nil => exact le_rfl
  | blank hblank hrest ih =>
      rw [List.flatMap_cons, List.length_append]
      omega
  | event hevent hrest ih =>
      have hsome := hevent.some_piece
      rw [List.flatMap_cons, List.length_append, List.length_cons]
      omega

/-- Where they have no more, no line with an event is cut. -/
theorem Laid.unseparated {events : List EventEnvelope} {lines : List (List Char)} (h : Laid parsers events lines)
    (hlength : (lines.flatMap pieces).length ≤ events.length) :
    ∀ line ∈ lines, isBlank line = false → ∀ c ∈ line, isSeparator c = false := by
  induction h with
  | nil =>
      intro line hline
      cases hline
  | blank hblank hrest ih =>
      rw [List.flatMap_cons, List.length_append] at hlength
      rw [List.forall_mem_cons]
      refine ⟨fun hnot => ?_, ih (by omega)⟩
      have hall := List.all_eq_true.mpr fun c hc => (hblank c hc).1
      rw [isBlank, hall] at hnot
      cases hnot
  | event hevent hrest ih =>
      have hsome := hevent.some_piece
      have hle := hrest.length_le
      rw [List.flatMap_cons, List.length_append, List.length_cons] at hlength
      rw [List.forall_mem_cons]
      refine ⟨fun _ c hc => Bool.eq_false_iff.mpr fun hseparator => ?_, ih (by omega)⟩
      have htwo := hevent.two_pieces hc hseparator
      omega

/-- The pieces of lines that are not cut are the encodings. -/
theorem Laid.encodes {events : List EventEnvelope} {lines : List (List Char)} (h : Laid parsers events lines)
    (hunseparated : ∀ line ∈ lines, isBlank line = false → ∀ c ∈ line, isSeparator c = false) :
    List.Forall₂ (EncodesEvent parsers) (lines.flatMap pieces) events := by
  induction h with
  | nil => exact List.Forall₂.nil
  | blank hblank hrest ih =>
      rw [List.forall_mem_cons] at hunseparated
      rw [List.flatMap_cons, pieces_of_blank (List.all_eq_true.mpr fun c hc => (hblank c hc).1), List.nil_append]
      exact ih hunseparated.2
  | event hevent hrest ih =>
      rw [List.forall_mem_cons] at hunseparated
      rw [List.flatMap_cons, hevent.one_piece (hunseparated.1 hevent.not_blank), List.singleton_append]
      exact List.Forall₂.cons hevent (ih hunseparated.2)

variable {runtime : Runtime}

theorem raiseReplayError_ne_ok {α : Type} {kind : ErrorKind} {message : String} {context : List (String × String)}
    (a : α) : raiseReplayError kind message context ≠ .ok a := by
  unfold raiseReplayError
  split <;> rintro ⟨⟩

/-- Each line that is not blank gives an event. -/
theorem parseEventLines_eq_ok {path : FilePath} {lines : List (List Char)} {lineNumber : ℕ}
    {loaded : List EventEnvelope} :
    parseEventLines runtime path lineNumber lines = .ok loaded ↔
      List.Forall₂ (fun line event => eventFromJson runtime.toParsers (String.ofList line) = .ok event)
        (lines.filter fun line => !isBlank line) loaded := by
  induction lines generalizing lineNumber loaded with
  | nil =>
      constructor
      · rintro ⟨⟩
        exact List.Forall₂.nil
      · rintro ⟨⟩
        rfl
  | cons line lines ih =>
      unfold parseEventLines
      -- a blank line has no event, and the filter drops it
      split_ifs with hblank
      · rw [ih, List.filter_cons_of_neg (by rw [hblank]; decide)]
      · rw [List.filter_cons_of_pos (by rw [Bool.not_eq_true _ |>.mp hblank]; rfl)]
        cases hparse : eventFromJson runtime.toParsers (String.ofList line) with
        | ok event =>
            rw [orNone_ok, ok_bind]
            dsimp only
            rw [bind_eq_ok]
            constructor
            · rintro ⟨rest, hrest, hpure⟩
              rw [← pure_eq_ok.mp hpure]
              exact List.Forall₂.cons hparse (ih.mp hrest)
            · rintro (_ | ⟨hevent, hrest⟩)
              rw [hparse] at hevent
              cases hevent
              exact ⟨_, ih.mpr hrest, rfl⟩
        | error e =>
            -- a line that does not parse ends the loading
            refine iff_of_false (fun h => ?_) ?_
            · obtain ⟨event?, horNone, h⟩ := bind_eq_ok.mp h
              cases event? with
              | none => exact raiseReplayError_ne_ok _ h
              | some event =>
                  unfold orNone at horNone
                  dsimp only at horNone
                  split_ifs at horNone
                  cases horNone
            · rintro (_ | ⟨hevent, -⟩)
              rw [hparse] at hevent
              cases hevent

/-- Text mode gives back a text without carriage returns. -/
theorem tryReadText_of_text {path : FilePath} {text : String} (h : runtime.readBytes path = some text.toUTF8)
    (hreturn : '\r' ∉ text.toList) : tryReadText runtime path = .ok (some text) := by
  have hdecode : String.fromUTF8? text.toUTF8 = some text := dif_pos text.isValidUTF8
  simp only [tryReadText, h, hdecode, textMode, universalNewlines_eq hreturn, String.ofList_toList]

/-- A file loads when each piece of its lines parses. -/
theorem FileLayout.Holds.load_eq_ok {file : FileLayout} (h : file.Holds runtime) {loaded : List EventEnvelope} :
    loadReplayEventsJsonl runtime file.path = .ok loaded ↔
      List.Forall₂ (fun line event => eventFromJson runtime.toParsers (String.ofList line) = .ok event)
        (file.lines.flatMap pieces) loaded ∧ loaded ≠ [] := by
  have hreturn : '\r' ∉ unlines file.lines := by
    intro hmem
    rcases mem_unlines hmem with heq | ⟨line, hline, hmem⟩
    · exact absurd heq (by decide)
    · exact h.laid.no_return line hline hmem
  have hread : tryReadText runtime file.path = .ok (some (String.ofList (unlines file.lines))) :=
    tryReadText_of_text h.content (by rwa [String.toList_ofList])
  have hparse : parseEventLines runtime file.path 1 (splitlines (unlines file.lines)) = .ok loaded ↔
      List.Forall₂ (fun line event => eventFromJson runtime.toParsers (String.ofList line) = .ok event)
        (file.lines.flatMap pieces) loaded := by
    rw [parseEventLines_eq_ok, filter_splitlines hreturn, pieces_unlines]
  unfold loadReplayEventsJsonl
  rw [if_neg (not_not_intro h.suffix), hread, ok_bind]
  dsimp only
  rw [String.toList_ofList, bind_eq_ok]
  constructor
  · rintro ⟨events, hevents, hok⟩
    split_ifs at hok with hempty
    · exact absurd hok (raiseReplayError_ne_ok loaded)
    · cases hok
      exact ⟨hparse.mp hevents, fun hnil => hempty (by rw [hnil]; rfl)⟩
  · rintro ⟨hpieces, hne⟩
    refine ⟨loaded, hparse.mpr hpieces, ?_⟩
    rw [if_neg (by rwa [List.isEmpty_iff])]
    rfl

/-- What loads is as many events at least, and more when a line is cut. -/
theorem loaded_length {layouts : List FileLayout} (hholds : ∀ file ∈ layouts, file.Holds runtime)
    {loaded : List EventEnvelope} (h : loadReplayEventFiles runtime (layouts.map FileLayout.path) = .ok loaded) :
    (layouts.flatMap FileLayout.events).length ≤ loaded.length ∧
      (loaded.length ≤ (layouts.flatMap FileLayout.events).length → ∀ file ∈ layouts, file.Unseparated) := by
  induction layouts generalizing loaded with
  | nil => exact ⟨Nat.zero_le _, fun _ file hfile => by cases hfile⟩
  | cons file layouts ih =>
      rw [List.forall_mem_cons] at hholds
      obtain ⟨first, hfirst, h⟩ := bind_eq_ok.mp h
      obtain ⟨rest, hrest, hpure⟩ := bind_eq_ok.mp h
      rw [← pure_eq_ok.mp hpure, List.flatMap_cons, List.length_append, List.length_append]
      obtain ⟨hle, himp⟩ := ih hholds.2 hrest
      have hpieces := (hholds.1.load_eq_ok.mp hfirst).1.length_eq
      have hevents := hholds.1.laid.length_le
      refine ⟨by omega, fun hlength => ?_⟩
      rw [List.forall_mem_cons]
      exact ⟨hholds.1.laid.unseparated (by omega), himp (by omega)⟩

/-- Encodings that are not cut load as their events. -/
theorem loaded_of_encodes {lines : List (List Char)} {events : List EventEnvelope}
    (h : List.Forall₂ (EncodesEvent parsers) lines events) :
    ∃ loaded, List.Forall₂ (fun line event => eventFromJson parsers (String.ofList line) = .ok event) lines loaded ∧
      loaded.map EventEnvelope.canonical = events.map EventEnvelope.canonical := by
  induction h with
  | nil => exact ⟨[], List.Forall₂.nil, rfl⟩
  | cons hevent _ ih =>
      obtain ⟨parsed, hparsed, hcanonical⟩ := hevent.parses
      obtain ⟨loaded, hloaded, hrest⟩ := ih
      refine ⟨parsed :: loaded, List.Forall₂.cons hparsed hloaded, ?_⟩
      rw [List.map_cons, List.map_cons, hcanonical, hrest]

theorem loaded_of_unseparated {layouts : List FileLayout} (hholds : ∀ file ∈ layouts, file.Holds runtime)
    (hunseparated : ∀ file ∈ layouts, file.Unseparated) :
    ∃ loaded, loadReplayEventFiles runtime (layouts.map FileLayout.path) = .ok loaded ∧
      loaded.map EventEnvelope.canonical = (layouts.flatMap FileLayout.events).map EventEnvelope.canonical := by
  induction layouts with
  | nil => exact ⟨[], rfl, rfl⟩
  | cons file layouts ih =>
      rw [List.forall_mem_cons] at hholds hunseparated
      obtain ⟨first, hpieces, hfirst⟩ := loaded_of_encodes (hholds.1.laid.encodes hunseparated.1)
      obtain ⟨rest, hrest, hcanonical⟩ := ih hholds.2 hunseparated.2
      have hne : first ≠ [] := by
        rintro rfl
        exact hholds.1.events_ne (List.map_eq_nil_iff.mp hfirst.symm)
      have hload := hholds.1.load_eq_ok.mpr ⟨hpieces, hne⟩
      refine ⟨first ++ rest, ?_, ?_⟩
      · rw [List.map_cons, loadReplayEventFiles, hload, ok_bind, hrest]
        rfl
      · rw [List.map_append, hfirst, hcanonical, List.flatMap_cons, List.map_append]

/-! ## The dataset -/

theorem optionalStr_injective {pre : String} {a b : Option (Identifier pre)}
    (h : CanonicalData.optionalStr (a.map Identifier.val) = CanonicalData.optionalStr (b.map Identifier.val)) :
    a = b := by
  cases a with
  | none =>
      cases b with
      | none => rfl
      | some b => cases h
  | some a =>
      cases b with
      | none => cases h
      | some b => exact congrArg some (Identifier.ext (CanonicalData.str.inj h))

/-- Whether an event belongs to a manifest shows in its canonical JSON. -/
theorem belongs_congr {manifest : ReplayManifest} {a b : EventEnvelope} (h : a.canonical = b.canonical)
    (hbelongs : EventBelongs manifest b) : EventBelongs manifest a := by
  simp only [EventEnvelope.canonical, CanonicalData.mapping.injEq, List.cons.injEq, Prod.mk.injEq, true_and,
    CanonicalData.datetime.injEq] at h
  obtain ⟨-, -, -, -, -, -, -, -, hoccurred, -, -, -, -, -, hsession, -⟩ := h
  unfold EventBelongs at hbelongs ⊢
  rw [optionalStr_injective hsession, hoccurred]
  exact hbelongs

theorem checksum_congr {a b : List EventEnvelope} (h : a.map EventEnvelope.canonical = b.map EventEnvelope.canonical) :
    calculateReplayDatasetChecksum runtime a = calculateReplayDatasetChecksum runtime b := by
  have hlines : ∀ events : List EventEnvelope, (events.map fun event => runtime.canonicalJson event.canonical ++ "\n") =
      (events.map EventEnvelope.canonical).map fun data => runtime.canonicalJson data ++ "\n" := by
    intro events
    rw [List.map_map]
    rfl
  unfold calculateReplayDatasetChecksum
  rw [hlines, hlines, h]

/-- A dataset that loads has the events of the files. -/
theorem events_of_load {manifestPath : FilePath} {eventPaths : List FilePath} {dataset : ReplayDataset}
    (h : loadReplayDataset runtime manifestPath eventPaths = .ok dataset) :
    loadReplayEventFiles runtime eventPaths = .ok dataset.events := by
  unfold loadReplayDataset at h
  split_ifs at h with hpaths
  · exact absurd h (raiseReplayError_ne_ok dataset)
  · obtain ⟨manifest, -, h⟩ := bind_eq_ok.mp h
    obtain ⟨events, hevents, h⟩ := bind_eq_ok.mp h
    unfold checkDataset at h
    dsimp only at h
    split_ifs at h with hchecksum
    · exact absurd h (raiseReplayError_ne_ok dataset)
    · obtain ⟨dataset?, hbuild, h⟩ := bind_eq_ok.mp h
      cases dataset? with
      | none => exact absurd h (raiseReplayError_ne_ok dataset)
      | some built =>
          cases h
          unfold buildDataset at hbuild
          split_ifs at hbuild
          · cases hbuild
          · cases hbuild
            exact hevents
          · cases hbuild

/-- The dataset loads with the canonical JSON of the events that were laid out, and their checksum. -/
def LoadsAsLaid (runtime : Runtime) (manifestPath : FilePath) (layouts : List FileLayout) : Prop :=
  ∃ dataset, loadReplayDataset runtime manifestPath (layouts.map FileLayout.path) = .ok dataset ∧
    dataset.events.map EventEnvelope.canonical =
      (layouts.flatMap FileLayout.events).map EventEnvelope.canonical ∧
    dataset.datasetChecksum = calculateReplayDatasetChecksum runtime (layouts.flatMap FileLayout.events)

/-- A layout that loads has no separators. -/
theorem unseparated_of_loadsAsLaid {layouts : List FileLayout} {manifestPath : FilePath}
    (hholds : ∀ file ∈ layouts, file.Holds runtime) (h : LoadsAsLaid runtime manifestPath layouts) :
    ∀ file ∈ layouts, file.Unseparated := by
  obtain ⟨dataset, hload, hcanonical, -⟩ := h
  have hlength := congrArg List.length hcanonical
  rw [List.length_map, List.length_map] at hlength
  exact (loaded_length hholds (events_of_load hload)).2 hlength.le

/-- **Loading does not depend on the layout** of the events of a manifest when no line with an event has a separator
    in it, and otherwise it does. -/
theorem layout_free_iff {layouts : List FileLayout} {manifestPath : FilePath} {manifest : ReplayManifest}
    (hne : layouts ≠ []) (hholds : ∀ file ∈ layouts, file.Holds runtime)
    (hmanifest : loadReplayManifest runtime manifestPath = .ok manifest)
    (hchecksum : calculateReplayDatasetChecksum runtime (layouts.flatMap FileLayout.events) = manifest.datasetChecksum)
    (hbelongs : ∀ event ∈ layouts.flatMap FileLayout.events, EventBelongs manifest event) :
    LoadsAsLaid runtime manifestPath layouts ↔ ∀ file ∈ layouts, file.Unseparated := by
  constructor
  · exact unseparated_of_loadsAsLaid hholds
  · intro hunseparated
    obtain ⟨loaded, hload, hcanonical⟩ := loaded_of_unseparated hholds hunseparated
    have hsame := @checksum_congr runtime _ _ hcanonical
    have hloaded : loaded ≠ [] := by
      obtain ⟨file, hfile⟩ := List.exists_mem_of_ne_nil layouts hne
      rintro rfl
      have hnil := List.map_eq_nil_iff.mp hcanonical.symm
      exact (hholds file hfile).events_ne (List.flatMap_eq_nil_iff.mp hnil file hfile)
    -- an event that loads shares its canonical JSON with one that was laid out
    have hevents : ∀ event ∈ loaded, EventBelongs manifest event := by
      intro event hevent
      have hmem : event.canonical ∈ (layouts.flatMap FileLayout.events).map EventEnvelope.canonical := by
        rw [← hcanonical]
        exact List.mem_map_of_mem hevent
      obtain ⟨laid, hlaid, heq⟩ := List.mem_map.mp hmem
      exact belongs_congr heq.symm (hbelongs laid hlaid)
    have hmatch : calculateReplayDatasetChecksum runtime loaded = manifest.datasetChecksum := hsame.trans hchecksum
    have hpaths : layouts.map FileLayout.path ≠ [] := fun hnil => hne (List.map_eq_nil_iff.mp hnil)
    refine ⟨{ manifest, events := loaded, datasetChecksum := calculateReplayDatasetChecksum runtime loaded,
              events_ne := hloaded, checksum_eq := hmatch, in_session := fun event h => (hevents event h).1,
              in_window := fun event h => (hevents event h).2 }, ?_, hcanonical, hsame⟩
    unfold loadReplayDataset checkDataset
    rw [if_neg hpaths, hmanifest, ok_bind, hload, ok_bind]
    dsimp only
    rw [if_neg (not_not_intro hmatch), buildDataset, dif_neg hloaded, dif_neg (not_not_intro hmatch), dif_pos hevents]
    rfl

/-! ## One event, and a line separator in its producer -/

def rainHash : String := "e3b0c44298fc1c149afbf4c8996fb92427ae41e4649b934ca495991b7852b855"

theorem length_rainHash : rainHash.length = 64 := by
  rw [rainHash, String.length_ofList]
  rfl

theorem hex_rainHash : (rainHash.toList.all fun c => inRange '0' '9' c || inRange 'a' 'f' c) = true := by
  rw [rainHash, String.toList_ofList]
  rfl

def rainChecksum : String := "sha256:" ++ rainHash

def manifestText : String :=
  "\x7b\"replay_session_id\":\"rpl_rain\",\"dataset_id\":\"rain\",\"dataset_checksum\":\"sha256:e3b0c44298fc1c149afbf4c8996fb92427ae41e4649b934ca495991b7852b855\",\"starts_at\":\"2026-01-01T00:00:00Z\",\"ends_at\":\"2026-01-02T00:00:00Z\",\"speed\":1,\"deterministic\":true,\"random_seed\":7,\"event_ordering_policy_version\":\"v1\",\"strategy_versions\":\x7b\x7d,\"model_versions\":\x7b\x7d,\"configuration_hash\":\"sha256:c\",\"code_commit\":\"c0ffee\",\"dependency_lock_hash\":\"sha256:d\",\"created_at\":\"2026-01-01T00:00:00Z\",\"created_by\":\"rain\"\x7d"

theorem no_return_manifestText : '\r' ∉ manifestText.toList := by
  rw [manifestText, String.toList_ofList]
  decide

def manifestPayload : JsonObject :=
  [("replay_session_id", .string "rpl_rain"), ("dataset_id", .string "rain"),
    ("dataset_checksum", .string rainChecksum), ("starts_at", .string "2026-01-01T00:00:00Z"),
    ("ends_at", .string "2026-01-02T00:00:00Z"), ("speed", .int 1), ("deterministic", .bool true),
    ("random_seed", .int 7), ("event_ordering_policy_version", .string "v1"), ("strategy_versions", .object []),
    ("model_versions", .object []), ("configuration_hash", .string "sha256:c"), ("code_commit", .string "c0ffee"),
    ("dependency_lock_hash", .string "sha256:d"), ("created_at", .string "2026-01-01T00:00:00Z"),
    ("created_by", .string "rain")]

/-- The text of the event up to its producer, after the opening brace. -/
def eventHead : String :=
  "\"event_id\":\"evt_rain\",\"event_type\":\"market.rain\",\"schema_version\":1,\"occurred_at\":\"2026-01-01T00:00:00Z\",\"received_at\":\"2026-01-01T00:00:00Z\",\"published_at\":\"2026-01-01T00:00:00Z\",\"producer\":\""

/-- The text of the event from its producer to the closing brace. -/
def eventTail : String := "\",\"correlation_id\":\"corr_rain\",\"replay_session_id\":\"rpl_rain\""

def eventText (producer : String) : String := "\x7b" ++ eventHead ++ producer ++ eventTail ++ "\x7d"

theorem eventText_toList (producer : String) : (eventText producer).toList =
    '\x7b' :: (eventHead.toList ++ (producer.toList ++ eventTail.toList)) ++ '\x7d' :: [] := by
  have hopen : "\x7b".toList = ['\x7b'] := String.toList_ofList
  have hclose : "\x7d".toList = ['\x7d'] := String.toList_ofList
  rw [eventText, String.toList_append, String.toList_append, String.toList_append, String.toList_append, hopen, hclose]
  -- the long texts stay closed
  generalize eventHead.toList = before
  generalize eventTail.toList = after
  simp only [List.append_assoc, List.nil_append, List.cons_append]

theorem mem_eventText {producer : String} {c : Char}
    (h : c ∈ '\x7b' :: (eventHead.toList ++ (producer.toList ++ eventTail.toList)) ++ '\x7d' :: []) :
    c = '\x7b' ∨ c = '\x7d' ∨ c ∈ eventHead.toList ++ eventTail.toList ∨ c ∈ producer.toList := by
  simp only [List.mem_append, List.mem_cons, List.not_mem_nil, or_false] at h
  rcases h with (hopen | hhead | hproducer | htail) | hclose
  · exact Or.inl hopen
  · exact Or.inr (Or.inr (Or.inl (List.mem_append_left _ hhead)))
  · exact Or.inr (Or.inr (Or.inr hproducer))
  · exact Or.inr (Or.inr (Or.inl (List.mem_append_right _ htail)))
  · exact Or.inr (Or.inl hclose)

/-- The characters of the text outside the producer. -/
theorem eventText_plain : ∀ c ∈ eventHead.toList ++ eventTail.toList, 32 ≤ c.toNat ∧ isSeparator c = false := by
  have hhead : (eventHead.toList.all fun c => decide (32 ≤ c.toNat ∧ isSeparator c = false)) = true := by
    rw [eventHead, String.toList_ofList]
    decide +kernel
  have htail : (eventTail.toList.all fun c => decide (32 ≤ c.toNat ∧ isSeparator c = false)) = true := by
    rw [eventTail, String.toList_ofList]
    decide +kernel
  intro c hc
  rcases List.mem_append.mp hc with hc | hc
  · exact of_decide_eq_true (List.all_eq_true.mp hhead c hc)
  · exact of_decide_eq_true (List.all_eq_true.mp htail c hc)

def eventPayload (producer : String) : JsonObject :=
  [("event_id", .string "evt_rain"), ("event_type", .string "market.rain"), ("schema_version", .int 1),
    ("occurred_at", .string "2026-01-01T00:00:00Z"), ("received_at", .string "2026-01-01T00:00:00Z"),
    ("published_at", .string "2026-01-01T00:00:00Z"), ("producer", .string producer),
    ("correlation_id", .string "corr_rain"), ("replay_session_id", .string "rpl_rain")]

def manifestPath : FilePath := ⟨"replay/manifest.json", "manifest.json"⟩

/-- The datetimes of the texts. -/
def rainParsers : Parsers where
  fromJson _ := none
  fromisoformat text :=
    if text = "2026-01-01T00:00:00+00:00" then some ⟨63902822400000000, some 0⟩
    else if text = "2026-01-02T00:00:00+00:00" then some ⟨63902908800000000, some 0⟩
    else none
  decimal _ := none

/-- A manifest, and a file with the one event of this producer. -/
def producerRuntime (producer : String) : Runtime where
  fromJson text :=
    if text = manifestText then some (.object manifestPayload)
    else if text = eventText producer then some (.object (eventPayload producer))
    else none
  fromisoformat := rainParsers.fromisoformat
  decimal := rainParsers.decimal
  readBytes path :=
    if path.name = "manifest.json" then some manifestText.toUTF8
    else some (String.ofList (eventText producer).toList).toUTF8
  canonicalJson _ := "canonical"
  sha256 _ := rainHash
  length_sha256 _ := length_rainHash
  hex_sha256 _ := hex_rainHash

theorem rainChecksum_text : text 256 "dataset_checksum" (.string rainChecksum) = .ok rainChecksum := by
  have hlength : rainChecksum.length = 71 := by
    rw [rainChecksum, String.length_append, length_rainHash]
    decide
  have hcheck : checkText "dataset_checksum" 256 rainChecksum = .ok () :=
    checkText_eq_ok.mpr ⟨by rw [hlength]; decide, by rw [hlength]; decide⟩
  rw [text, hcheck]
  rfl

/-- What decides whether the event belongs to the manifest. -/
theorem rainManifest_fields : (manifestFromPayload rainParsers manifestPayload).toOption.map
    (fun manifest => (manifest.replaySessionId.val, manifest.datasetChecksum, manifest.startsAt, manifest.endsAt)) =
      some ("rpl_rain", rainChecksum, 63902822400000000, 63902908800000000) := by
  have hchecksum : required manifestPayload "dataset_checksum" (text 256 "dataset_checksum") = .ok rainChecksum :=
    rainChecksum_text
  unfold manifestFromPayload
  rw [hchecksum]
  decide +kernel

theorem modelValidateJson_object {α : Type} {model : JsonObject → Result α} {text : String} {payload : JsonObject}
    (h : parsers.fromJson text = some (.object payload)) : modelValidateJson parsers model text = model payload := by
  rw [modelValidateJson, h]

theorem manifestFromPayload_congr {first second : Parsers} {payload : JsonObject}
    (hdatetime : first.fromisoformat = second.fromisoformat) (hdecimal : first.decimal = second.decimal) :
    manifestFromPayload first payload = manifestFromPayload second payload := by
  cases first
  cases second
  cases hdatetime
  cases hdecimal
  rfl

theorem producer_manifest (producer : String) :
    ∃ manifest, loadReplayManifest (producerRuntime producer) manifestPath = .ok manifest ∧
      manifest.replaySessionId.val = "rpl_rain" ∧ manifest.datasetChecksum = rainChecksum ∧
      manifest.startsAt = 63902822400000000 ∧ manifest.endsAt = 63902908800000000 := by
  have hname : manifestPath.name = "manifest.json" := rfl
  have hbytes : (producerRuntime producer).readBytes manifestPath = some manifestText.toUTF8 := by
    simp only [producerRuntime, if_pos hname]
  have hread := tryReadText_of_text hbytes no_return_manifestText
  have hfromJson : (producerRuntime producer).fromJson manifestText = some (.object manifestPayload) := by
    simp only [producerRuntime, if_true]
  have hjson : manifestFromJson (producerRuntime producer).toParsers manifestText =
      manifestFromPayload rainParsers manifestPayload :=
    (modelValidateJson_object hfromJson).trans (manifestFromPayload_congr rfl rfl)
  have h := rainManifest_fields
  cases hload : manifestFromPayload rainParsers manifestPayload with
  | error e => rw [hload] at h; cases h
  | ok manifest =>
      rw [hload] at h
      have hfields := Option.some.inj h
      simp only [Prod.mk.injEq] at hfields
      refine ⟨manifest, ?_, hfields⟩
      unfold loadReplayManifest
      rw [if_neg (not_not_intro hname), hread, ok_bind]
      dsimp only
      rw [hjson, hload]
      rfl

/-- The texts differ in their third character. -/
theorem eventText_ne_manifestText (producer : String) : eventText producer ≠ manifestText := by
  intro heq
  have hhead : ∃ rest, eventHead.toList = '"' :: 'e' :: rest := by
    rw [eventHead, String.toList_ofList]
    exact ⟨_, rfl⟩
  have hmanifest : ∃ rest, manifestText.toList = '\x7b' :: '"' :: 'r' :: rest := by
    rw [manifestText, String.toList_ofList]
    exact ⟨_, rfl⟩
  obtain ⟨eventRest, hhead⟩ := hhead
  obtain ⟨manifestRest, hmanifest⟩ := hmanifest
  have hlist := congrArg String.toList heq
  rw [eventText_toList, hhead, hmanifest] at hlist
  simp only [List.cons_append, List.cons.injEq, true_and] at hlist
  exact absurd hlist.1 (by decide)

theorem producer_event (producer : String)
    (h : (eventFromPayload (producerRuntime producer).toParsers (eventPayload producer)).toOption.map
      (fun event => (event.replaySessionId.map Identifier.val, event.occurredAt)) =
        some (some "rpl_rain", 63902822400000000)) :
    ∃ event, eventFromJson (producerRuntime producer).toParsers (eventText producer) = .ok event ∧
      event.replaySessionId.map Identifier.val = some "rpl_rain" ∧ event.occurredAt = 63902822400000000 := by
  have hjson : eventFromJson (producerRuntime producer).toParsers (eventText producer) =
      eventFromPayload (producerRuntime producer).toParsers (eventPayload producer) := by
    have hfromJson : (producerRuntime producer).fromJson (eventText producer) =
        some (.object (eventPayload producer)) := by
      simp only [producerRuntime, if_neg (eventText_ne_manifestText producer), if_true]
    simp only [eventFromJson, modelValidateJson, hfromJson]
  rw [hjson]
  cases hparse : eventFromPayload (producerRuntime producer).toParsers (eventPayload producer) with
  | error e => rw [hparse] at h; cases h
  | ok event =>
      rw [hparse] at h
      have hfields := Option.some.inj h
      simp only [Prod.mk.injEq] at hfields
      exact ⟨event, rfl, hfields⟩

def eventsPath : FilePath := ⟨"replay/events.jsonl", "events.jsonl"⟩

theorem eventsPath_suffix : eventsPath.suffix = ".jsonl" := rfl

/-- The event on a line of its own. -/
def producerLayout (producer : String) (event : EventEnvelope) : FileLayout where
  path := eventsPath
  events := [event]
  lines := [(eventText producer).toList]

theorem producer_encodes {producer : String} {event : EventEnvelope}
    (hparse : eventFromJson (producerRuntime producer).toParsers (eventText producer) = .ok event)
    (hprintable : (producer.toList.all fun c => decide (32 ≤ c.toNat)) = true) :
    EncodesEvent (producerRuntime producer).toParsers (eventText producer).toList event where
  object := ⟨[], _, [], eventText_toList producer, by rintro c ⟨⟩, by rintro c ⟨⟩⟩
  printable c hc := by
    refine Or.inr ?_
    rw [eventText_toList] at hc
    rcases mem_eventText hc with rfl | rfl | hplain | hproducer
    · decide
    · decide
    · exact (eventText_plain c hplain).1
    · exact of_decide_eq_true (List.all_eq_true.mp hprintable c hproducer)
  parses := ⟨event, by rw [String.ofList_toList]; exact hparse, rfl⟩

theorem producer_holds {producer : String} {event : EventEnvelope}
    (h : EncodesEvent (producerRuntime producer).toParsers (eventText producer).toList event) :
    (producerLayout producer event).Holds (producerRuntime producer) where
  suffix := eventsPath_suffix
  content := by
    have hname : eventsPath.name ≠ "manifest.json" := by decide
    simp only [producerRuntime, producerLayout, if_neg hname, unlines]
  events_ne := List.cons_ne_nil _ _
  laid := Laid.event h Laid.nil

/-- The layout is as separated as the producer. -/
theorem producer_unseparated {producer : String} {event : EventEnvelope}
    (h : isBlank (eventText producer).toList = false) :
    (producerLayout producer event).Unseparated ↔ (producer.toList.all fun c => !isSeparator c) = true := by
  show (∀ line ∈ [(eventText producer).toList], isBlank line = false → ∀ c ∈ line, isSeparator c = false) ↔ _
  rw [List.forall_mem_singleton, forall_prop_of_true h, eventText_toList]
  constructor
  · intro hall
    refine List.all_eq_true.mpr fun c hc => ?_
    rw [hall c (List.mem_append_left _ (List.mem_cons_of_mem _
      (List.mem_append_right _ (List.mem_append_left _ hc))))]
    rfl
  · intro hproducer c hc
    rcases mem_eventText hc with rfl | rfl | hplain | hc
    · decide
    · decide
    · exact (eventText_plain c hplain).2
    · exact Bool.not_eq_true' _ |>.mp (List.all_eq_true.mp hproducer c hc)

theorem producer_belongs {manifest : ReplayManifest} {event : EventEnvelope}
    (hsession : event.replaySessionId.map Identifier.val = some "rpl_rain")
    (hoccurred : event.occurredAt = 63902822400000000) (hmanifest : manifest.replaySessionId.val = "rpl_rain")
    (hstarts : manifest.startsAt = 63902822400000000) (hends : manifest.endsAt = 63902908800000000) :
    EventBelongs manifest event := by
  obtain ⟨sessionId, hsome, hval⟩ := Option.map_eq_some_iff.mp hsession
  refine ⟨?_, ?_, ?_⟩
  · rw [hsome, Identifier.ext (hval.trans hmanifest.symm)]
  · rw [hstarts, hoccurred]
  · rw [hends, hoccurred]
    decide

theorem layout_free_iff_feed : ∃ event,
    eventFromJson (producerRuntime "feed").toParsers (eventText "feed") = .ok event ∧
    LoadsAsLaid (producerRuntime "feed") manifestPath [producerLayout "feed" event] := by
  obtain ⟨event, hparse, hsession, hoccurred⟩ := producer_event "feed" (by decide +kernel)
  obtain ⟨manifest, hmanifest, hid, hchecksum, hstarts, hends⟩ := producer_manifest "feed"
  have hencodes := producer_encodes hparse (by decide +kernel)
  have hiff := @layout_free_iff (producerRuntime "feed") [producerLayout "feed" event] manifestPath manifest
    (List.cons_ne_nil _ _) (List.forall_mem_singleton.mpr (producer_holds hencodes)) hmanifest hchecksum.symm
    (List.forall_mem_singleton.mpr (producer_belongs hsession hoccurred hid hstarts hends))
  exact ⟨event, hparse,
    hiff.mpr (List.forall_mem_singleton.mpr ((producer_unseparated hencodes.not_blank).mpr (by decide +kernel)))⟩

/-- The event is encoded on one line and belongs to the manifest that loads, and the dataset does not load as it. -/
theorem separated_producer_lost : ∃ event manifest,
    EncodesEvent (producerRuntime "rain\u2028feed").toParsers (eventText "rain\u2028feed").toList event ∧
    (producerLayout "rain\u2028feed" event).Holds (producerRuntime "rain\u2028feed") ∧
    loadReplayManifest (producerRuntime "rain\u2028feed") manifestPath = .ok manifest ∧
    calculateReplayDatasetChecksum (producerRuntime "rain\u2028feed") [event] = manifest.datasetChecksum ∧
    EventBelongs manifest event ∧
    ¬LoadsAsLaid (producerRuntime "rain\u2028feed") manifestPath [producerLayout "rain\u2028feed" event] := by
  obtain ⟨event, hparse, hsession, hoccurred⟩ := producer_event "rain\u2028feed" (by decide +kernel)
  obtain ⟨manifest, hmanifest, hid, hchecksum, hstarts, hends⟩ := producer_manifest "rain\u2028feed"
  have hencodes := producer_encodes hparse (by decide +kernel)
  have hholds := producer_holds hencodes
  refine ⟨event, manifest, hencodes, hholds, hmanifest, hchecksum.symm,
    producer_belongs hsession hoccurred hid hstarts hends, fun h => ?_⟩
  have hunseparated := List.forall_mem_singleton.mp
      (unseparated_of_loadsAsLaid (List.forall_mem_singleton.mpr hholds) h)
  exact absurd ((producer_unseparated hencodes.not_blank).mp hunseparated) (by decide +kernel)

end ReplayLoader
end Pmrp
