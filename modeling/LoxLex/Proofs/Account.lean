import LoxLex.Proofs.Flags
import LoxLex.Proofs.Listing
import Mathlib.Algebra.GroupWithZero.Nat

/-!
# Accounts

At debug level a text is accounted for three times: by the log, by its listing and by its diagnostics. The log
is kept beside the other two and printed before them, with counts of its own, and agrees with both.
-/

namespace LoxLex

/-! ## The log at debug level -/

namespace Filter

/-- Everything that is logged about a text is shown, and with the span. -/
def ShowsLexing (f : Filter) : Prop := ∀ e, f.line? (.lexing e) = some ⟨.lexing e, true⟩

/-- Targets alone decide what is shown. -/
def IsPlain (f : Filter) : Prop := ∀ d ∈ f.directives, d.subject.span = none ∧ d.subject.field = none

def lexingLevel (f : Filter) : Level := closest (f.directives.filter (·.subject.hasTarget Span.target))

variable {f : Filter}

theorem IsPlain.not_coversSpans (h : f.IsPlain) : ∀ d ∈ f.directives, d.subject.coversSpans = false := by
  intro d hd
  obtain ⟨hs, hf⟩ := h d hd
  simp [Subject.coversSpans, Subject.namesSpan, hs, hf]

theorem IsPlain.levelFor (h : f.IsPlain) (e : LexEvent) : f.levelFor (.lexing e) = f.lexingLevel := by
  unfold Filter.levelFor lexingLevel
  congr 1
  apply List.filter_congr
  intro d hd
  obtain ⟨hs, hf⟩ := h d hd
  simp [Subject.coversRecord, Subject.isGeneral, Subject.hasField, hs, hf, LogRecord.target]

theorem IsPlain.followsSpans (h : f.IsPlain) : f.followsSpans = f.lexingLevel.admits .debug := by
  have hc : f.directives.any (·.subject.coversSpans) = false := by
    apply List.any_eq_false.mpr
    intro d hd
    simp [h.not_coversSpans d hd]
  have hg : f.directives.filter (fun d => d.subject.isGeneral && d.subject.hasTarget Span.target) =
      f.directives.filter (·.subject.hasTarget Span.target) := by
    apply List.filter_congr
    intro d hd
    obtain ⟨hs, hf⟩ := h d hd
    simp [Subject.isGeneral, hs, hf]
  rw [Filter.followsSpans, hc, hg, Bool.false_or]
  rfl

theorem IsPlain.line? (h : f.IsPlain) (e : LexEvent) : f.line? (.lexing e) =
    if f.lexingLevel.admits .debug then some ⟨.lexing e, true⟩ else none := by
  have hw : ∀ s : Span, f.admitsWithin s .debug = false := by
    intro s
    apply List.any_eq_false.mpr
    intro d hd
    simp [Subject.coversSpan, h.not_coversSpans d hd]
  have ha : f.admits (.lexing e) = f.lexingLevel.admits .debug := by
    rw [admits, h.levelFor]
    cases e <;> simp [LogRecord.span?, LogRecord.level, hw]
  rw [Filter.line?, ha, h.followsSpans]
  by_cases hl : f.lexingLevel.admits .debug = true
  · rw [hl]
  · rw [if_neg hl, if_neg hl]

theorem IsPlain.showsLexing_iff (h : f.IsPlain) : f.ShowsLexing ↔ f.lexingLevel.admits .debug = true := by
  constructor
  · intro hs
    by_contra hn
    have he := hs (.finished 0 0 0)
    rw [h.line?, if_neg hn] at he
    cases he
  · intro hl e
    rw [h.line?, if_pos hl]

theorem isPlain_ofLevel (l : Level) : (ofLevel l).IsPlain := by
  intro d hd
  obtain rfl := List.mem_singleton.mp hd
  exact ⟨rfl, rfl⟩

end Filter

/-! ## Texts -/

theorem utf8_ofList (cs : List Char) : utf8 (.ofList cs) = cs.flatMap String.utf8EncodeChar := by
  rw [utf8, String.toByteArray_ofList, List.utf8Encode]
  simp

theorem utf8_append (s t : String) : utf8 (s ++ t) = utf8 s ++ utf8 t := by
  rw [utf8, String.toByteArray_append]
  simp [utf8]

theorem utf8_join (ts : List String) : utf8 (.join ts) = (ts.map utf8).flatten := by
  induction ts with
  | nil => rfl
  | cons t ts ih => rw [String.join_cons, utf8_append, ih, List.map_cons, List.flatten_cons]

theorem length_utf8 (t : String) : (utf8 t).length = t.utf8ByteSize := by
  rw [utf8, Array.length_toList]
  rfl

theorem lineFeed_ne_ofNat {n : Nat} (hl : n < 256) (hn : n ≠ 10) : lineFeed ≠ UInt8.ofNat n := by
  intro h
  have h := congrArg UInt8.toNat h
  rw [UInt8.toNat_ofNat_of_lt' hl] at h
  exact hn h.symm

theorem lineFeed_not_mem_utf8 {c : Char} (hc : c ≠ '\n') : lineFeed ∉ utf8 (.ofList [c]) := by
  have hn : c.val.toNat ≠ 10 := by
    intro h
    exact hc (Char.ext (UInt32.toNat_inj.mp h))
  rw [utf8_ofList, List.flatMap_singleton, String.utf8EncodeChar]
  -- the bytes of a longer character are at least 128
  split_ifs <;>
    simp (disch := omega) only [List.mem_cons, List.not_mem_nil, or_false, lineFeed_ne_ofNat, not_false_eq_true]

/-- The lines of a text are texts. -/
theorem exists_lines_utf8 (cs : List Char) : ∃ ts : List String, Lines (utf8 (.ofList cs)) (ts.map utf8) := by
  induction cs with
  | nil => exact ⟨[], .nil⟩
  | cons c cs ih =>
    obtain ⟨ts, h⟩ := ih
    rw [← List.singleton_append, String.ofList_append, utf8_append]
    by_cases hc : c = '\n'
    · subst hc
      exact ⟨"\n" :: ts, .cons (l := []) (by simp) h⟩
    · have hc := lineFeed_not_mem_utf8 hc
      cases ts with
      | nil =>
        have hn : utf8 (.ofList [c]) ≠ [] := by
          rw [utf8_ofList, List.flatMap_singleton]
          exact String.utf8EncodeChar_ne_nil
        refine ⟨[.ofList [c]], ?_⟩
        rw [← h.flatten, List.map_nil, List.flatten_nil, List.append_nil]
        exact .last hn hc
      | cons t ts =>
        refine ⟨(.ofList [c] ++ t) :: ts, ?_⟩
        rw [List.map_cons, utf8_append]
        exact h.append_head hc

/-! ## Three accounts of a text -/

def tokensIn (t : String) : List Token := (lex t (#[] : Array Diagnostic)).1

theorem tokensIn_eq (t : String) : tokensIn t = tokensOf (Lexer.ofString t).items := by
  rw [tokensIn, lex_eq]

/-- What is logged about the diagnostics of a text. -/
def errorEvents (t : String) : List LexEvent :=
  (diagnosticsIn t).map fun d => .lexicalError (utf8 t).length d.line d.fault

/-- What is logged last about a text. It counts the lines of the listing and the diagnostics. -/
def lastEvent (t : String) : LexEvent :=
  .finished (utf8 t).length ((listing (tokensIn t)).toList.count '\n') (diagnosticsIn t).length

def Output.ofEvent (e : LexEvent) : Output := .log ⟨.lexing e, true⟩

/-- What is said about a text: log lines, the listing, and the diagnostics. -/
def account (t : String) : List Output :=
  (errorEvents t).map .ofEvent ++ [.ofEvent (lastEvent t), .listing (tokensIn t)] ++
    (diagnosticsIn t).map .diagnostic

theorem events_eq (t : String) :
    ((Lexer.ofString t).harvest (#[] : Array Diagnostic)).events.toList = errorEvents t ++ [lastEvent t] := by
  have hb : (Lexer.ofString t).source.utf8ByteSize = (utf8 t).length := (length_utf8 t).symm
  rw [Lexer.harvest_eq, hb, errorEvents, lastEvent, count_listing, diagnosticsIn_eq, tokensIn_eq, Array.toList_push]
  rfl

theorem Settings.outputs_eq_account {s : Settings} (hq : s.quiet = false) (hf : s.filter.ShowsLexing) (t : String) :
    s.outputs ((Lexer.ofString t).harvest #[]) = account t := by
  have hl : ∀ e, s.log (.lexing e) = [.ofEvent e] := by
    intro e
    rw [log, hf]
    rfl
  unfold outputs account
  simp only [hl, ← List.map_eq_flatMap]
  rw [events_eq, hq]
  simp [tokensIn, lex, diagnosticsIn]

/-! ### How they are written -/

/-- What the lines on a text of so many bytes begin with. -/
def logHead (bytes : Nat) : String :=
  "DEBUG scan_tokens\x7bbytes=" ++ toString bytes ++ "\x7d: lox_scan::scanner: "

theorem text_lexing {e : LexEvent} {bytes : Nat} (h : LogRecord.span? (.lexing e) = some ⟨bytes⟩) :
    LogLine.text ⟨.lexing e, true⟩ = logHead bytes ++ LogRecord.message (.lexing e) ++
      .join ((LogRecord.fields (.lexing e)).map fun f => " " ++ f.1 ++ "=" ++ f.2) := by
  have hl : String.ofList (LogLine.levelField.pad Level.debug.name.toUpper.toList) = "DEBUG" := by
    rw [String.toUpper, String.toList_map]
    decide +kernel
  have hh : "DEBUG" ++ " " ++ (Span.text ⟨bytes⟩ ++ ": ") ++ "lox_scan::scanner" ++ ": " = logHead bytes := by
    unfold Span.text logHead Span.name Span.fieldName
    apply String.toList_injective
    simp
  have ht : LogRecord.target (.lexing e) = "lox_scan::scanner" := rfl
  have hd : LogRecord.level (.lexing e) = .debug := rfl
  unfold LogLine.text
  simp only [h, hd, hl, ht, Option.elim_some, if_true, hh]

theorem text_finished (bytes tokens errors : Nat) :
    LogLine.text ⟨.lexing (.finished bytes tokens errors), true⟩ =
      logHead bytes ++ "scan finished tokens=" ++ toString tokens ++ " errors=" ++ toString errors := by
  rw [text_lexing rfl]
  unfold LogRecord.message LogRecord.fields
  apply String.toList_injective
  simp

theorem text_lexicalError (bytes line : Nat) (fault : Fault) :
    LogLine.text ⟨.lexing (.lexicalError bytes line fault), true⟩ =
      logHead bytes ++ "lexical error line=" ++ toString line ++ " error=" ++ fault.message := by
  rw [text_lexing rfl]
  unfold LogRecord.message LogRecord.fields
  apply String.toList_injective
  simp

theorem stdout_account (t : String) : String.join ((account t).map Output.toStdout) = listing (tokensIn t) := by
  have he : ∀ es : List LexEvent, String.join ((es.map Output.ofEvent).map Output.toStdout) = "" := by
    intro es
    apply join_eq_empty
    simp [Output.ofEvent, Output.toStdout]
  have hd : ∀ ds : List Diagnostic, String.join ((ds.map Output.diagnostic).map Output.toStdout) = "" := by
    intro ds
    apply join_eq_empty
    simp [Output.toStdout]
  rw [account, List.map_append, List.map_append, String.join_append, String.join_append, he, hd]
  simp [Output.ofEvent, Output.toStdout]

/-- The log lines on a text. -/
def scanLog (t : String) : String :=
  .join ((diagnosticsIn t).map fun d =>
    logHead (utf8 t).length ++ "lexical error line=" ++ toString d.line ++ " error=" ++ d.message ++ "\n") ++
  (logHead (utf8 t).length ++ "scan finished tokens=" ++ toString ((listing (tokensIn t)).toList.count '\n') ++
    " errors=" ++ toString (diagnosticsIn t).length ++ "\n")

theorem stderr_account (t : String) :
    String.join ((account t).map Output.toStderr) = scanLog t ++ lineDiagnostics t := by
  have he : ((errorEvents t).map Output.ofEvent).map Output.toStderr = (diagnosticsIn t).map fun d =>
      logHead (utf8 t).length ++ "lexical error line=" ++ toString d.line ++ " error=" ++ d.message ++ "\n" := by
    rw [errorEvents, List.map_map, List.map_map]
    apply List.map_congr_left
    intro d _
    simp only [Function.comp_apply, Output.ofEvent, Output.toStderr, text_lexicalError, Diagnostic.message]
  have hl : (Output.ofEvent (lastEvent t)).toStderr =
      logHead (utf8 t).length ++ "scan finished tokens=" ++ toString ((listing (tokensIn t)).toList.count '\n') ++
        " errors=" ++ toString (diagnosticsIn t).length ++ "\n" := by
    simp only [Output.ofEvent, Output.toStderr, lastEvent, text_finished]
  have hd : ((diagnosticsIn t).map Output.diagnostic).map Output.toStderr = (diagnosticsIn t).map fun d =>
      "[line " ++ toString d.line ++ "] Error: " ++ d.message ++ "\n" := by
    rw [List.map_map]
    rfl
  rw [account, List.map_append, List.map_append, String.join_append, String.join_append, he, hd, List.map_cons, hl,
    scanLog, lineDiagnostics, ← diagnosticsIn]
  simp [Output.toStderr]

/-! ## Runs -/

def Output.scanned? : Output → Option Nat
  | .log ⟨.lexing (.finished bytes _ _), _⟩ => some bytes
  | _ => none

theorem scanned_account (t : String) : (account t).filterMap Output.scanned? = [(utf8 t).length] := by
  have he : ((errorEvents t).map Output.ofEvent).filterMap Output.scanned? = [] := by
    rw [errorEvents, List.map_map, List.filterMap_map]
    apply List.filterMap_eq_nil_iff.mpr
    intro d _
    rfl
  have hd : ((diagnosticsIn t).map Output.diagnostic).filterMap Output.scanned? = [] := by
    rw [List.filterMap_map]
    apply List.filterMap_eq_nil_iff.mpr
    intro d _
    rfl
  rw [account, List.filterMap_append, List.filterMap_append, he, hd]
  rfl

section
variable {w : Surroundings} {o : Options} {s : Settings}
  (hr : Request.ofArguments w.arguments = .ok (.run o)) (hs : Settings.ofOptions o w.logSetting = s)
  (hf : s.filter.ShowsLexing) (hq : s.quiet = false)
include hq hf

theorem Settings.answer_eq_account (t : String) : s.answer t = .prompt :: account t := by
  rw [Settings.answer, outputs_eq_account hq hf]

theorem Settings.answers_eq_accounts (ts : List String) :
    ts.flatMap s.answer = ts.flatMap fun t => .prompt :: account t := by
  congr 1
  funext t
  exact answer_eq_account hf hq t

include hr hs

theorem run_script_account {path t : String} (hp : o.script = some path) (ht : w.fileAt path = .ok (utf8 t)) :
    (run w).outputs = s.log (.readingFile path) ++ account t := by
  rw [run_eq_perform hr, hs, hp, Settings.perform, ht, Settings.script_utf8, Settings.outputs_eq_account hq hf]

theorem run_session_texts {ts : List String} (hp : o.script = none) (hl : Lines w.input (ts.map utf8)) :
    (run w).outputs = ts.flatMap (fun t => .prompt :: account t) ++ [.prompt] ∧
      ((run w).outputs.filterMap Output.scanned?).sum = w.input.length := by
  have ho : (run w).outputs = ts.flatMap (fun t => .prompt :: account t) ++ [.prompt] := by
    rw [run_eq_session hr hp hl, hs, Settings.session_utf8, Settings.answers_eq_accounts hf hq]
  have hc : ∀ t, (Output.prompt :: account t).filterMap Output.scanned? = [(utf8 t).length] := scanned_account
  have hn : [Output.prompt].filterMap Output.scanned? = [] := rfl
  refine ⟨ho, ?_⟩
  rw [ho, List.filterMap_append, List.filterMap_flatMap, ← hl.flatten, List.length_flatten, List.map_map]
  simp only [hc, hn, ← List.map_eq_flatMap, List.append_nil, Function.comp_def]

/-- An input is a text, or it has a first line that is none. -/
theorem run_session_accounts (hp : o.script = none) : ∃ (ts : List String) (last : List Output),
    (run w).outputs = ts.flatMap (fun t => .prompt :: account t) ++ .prompt :: last ∧
    ((∃ text, w.input = utf8 text) → Lines w.input (ts.map utf8) ∧ last = [] ∧
      ((run w).outputs.filterMap Output.scanned?).sum = w.input.length) ∧
    ((∀ text, w.input ≠ utf8 text) → ∃ bad later, Lines w.input (ts.map utf8 ++ bad :: later) ∧
      (∀ t, utf8 t ≠ bad) ∧ last = s.giveUp .invalidUtf8) := by
  by_cases ht : ∃ text, w.input = utf8 text
  · obtain ⟨text, hi⟩ := ht
    obtain ⟨ts, hl⟩ := exists_lines_utf8 text.toList
    rw [String.ofList_toList, ← hi] at hl
    obtain ⟨ho, hb⟩ := run_session_texts hr hs hf hq hp hl
    exact ⟨ts, [], ho, fun _ => ⟨hl, rfl, hb⟩, fun hn => absurd hi (hn text)⟩
  · obtain ⟨ls, hl⟩ := exists_lines w.input
    obtain ⟨ts, rfl | ⟨bad, later, rfl, hb⟩⟩ := exists_texts ls
    · exact absurd ⟨.join ts, by rw [utf8_join, hl.flatten]⟩ ht
    · refine ⟨ts, s.giveUp .invalidUtf8, ?_, fun h => absurd h ht, fun _ => ⟨bad, later, hl, hb, rfl⟩⟩
      rw [run_not_utf8 hr hp hl rfl hb, hs, Settings.answers_eq_accounts hf hq]

end

/-- **Accounts.** At debug level the log, the listing and the diagnostics of each text that is read agree. At the
prompt all of the input is read. -/
theorem run_accounts (w : Surroundings) {o : Options} {s : Settings}
    (hr : Request.ofArguments w.arguments = .ok (.run o)) (hs : Settings.ofOptions o w.logSetting = s)
    (hq : o.quiet = false) :
    (s.filter.IsPlain → (s.filter.ShowsLexing ↔ s.filter.lexingLevel.admits .debug = true)) ∧
    (o.verbose = true → w.logSetting.bind Filter.ofString? = none → s.filter.ShowsLexing) ∧
    (s.filter.ShowsLexing →
      (∀ path t, o.script = some path → w.fileAt path = .ok (utf8 t) →
        (run w).outputs = s.log (.readingFile path) ++ account t) ∧
      (o.script = none → ∃ (ts : List String) (last : List Output),
        (run w).outputs = ts.flatMap (fun t => .prompt :: account t) ++ .prompt :: last ∧
        ((∃ text, w.input = utf8 text) → Lines w.input (ts.map utf8) ∧ last = [] ∧
          ((run w).outputs.filterMap Output.scanned?).sum = w.input.length) ∧
        ((∀ text, w.input ≠ utf8 text) → ∃ bad later, Lines w.input (ts.map utf8 ++ bad :: later) ∧
          (∀ t, utf8 t ≠ bad) ∧ last = s.giveUp .invalidUtf8))) ∧
    ∀ t, String.join ((account t).map Output.toStdout) = listing (tokensIn t) ∧
      String.join ((account t).map Output.toStderr) = scanLog t ++ lineDiagnostics t := by
  refine ⟨fun hp => hp.showsLexing_iff, ?_, ?_, fun t => ⟨stdout_account t, stderr_account t⟩⟩
  · intro hv hn
    rw [← hs, Settings.ofOptions, hn, hv]
    exact (Filter.isPlain_ofLevel .debug).showsLexing_iff.mpr rfl
  · intro hf
    have hq : s.quiet = false := by rw [← hs]; exact hq
    exact ⟨fun path t hp ht => run_script_account hr hs hf hq hp ht, run_session_accounts hr hs hf hq⟩

/-- A script with a break in a string, and two lines of which the first has a character of two bytes. -/
theorem run_accounts_break_and_wide_character :
    (run ⟨["-v", "s"], none, fun _ => .ok [34, 97, 10, 98, 34, 64], []⟩).outputs =
      Settings.log ⟨false, .ofLevel .debug⟩ (.readingFile "s") ++ account "\"a\nb\"@" ∧
    String.join ((account "\"a\nb\"@").map Output.toStdout) =
      "   1 STRING        \"a\\nb\" a\\nb\n   2 EOF\n" ∧
    String.join ((account "\"a\nb\"@").map Output.toStderr) =
      "DEBUG scan_tokens\x7bbytes=6\x7d: lox_scan::scanner: lexical error line=2 error=Unexpected character: @\n" ++
      "DEBUG scan_tokens\x7bbytes=6\x7d: lox_scan::scanner: scan finished tokens=2 errors=1\n" ++
      "[line 2] Error: Unexpected character: @\n" ∧
    ((run ⟨["-v"], none, fun _ => .error .notFound, [195, 169, 10, 34]⟩).outputs.filterMap Output.scanned?).sum =
      4 := by
  have hu : [34, 97, 10, 98, 34, 64] = utf8 "\"a\nb\"@" := by decide +kernel
  have hu' : [195, 169, 10, 34] = utf8 "é\n\"" := by decide +kernel
  obtain ⟨-, hv, hf, ht⟩ := run_accounts ⟨["-v", "s"], none, fun _ => .ok [34, 97, 10, 98, 34, 64], []⟩
    (o := ⟨false, true, some "s"⟩) rfl rfl rfl
  obtain ⟨-, hv', hf', -⟩ := run_accounts ⟨["-v"], none, fun _ => .error .notFound, [195, 169, 10, 34]⟩
    (o := ⟨false, true, none⟩) rfl rfl rfl
  refine ⟨(hf (hv rfl rfl)).1 "s" _ rfl (congrArg Except.ok hu), ?_, ?_, ?_⟩
  · rw [(ht _).1]
    decide +kernel
  · rw [(ht _).2]
    decide +kernel
  · obtain ⟨ts, last, -, h, -⟩ := (hf' (hv' rfl rfl)).2 rfl
    exact (h ⟨"é\n\"", hu'⟩).2.2

end LoxLex
