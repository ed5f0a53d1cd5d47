import LoxLex.Proofs.Harvest

/-!
# No character is lost

A sieve reads a text one character at a time. It knows strings and comments, but no numbers, words or marks:
in code it drops blanks, keeps the characters that can be part of a token, and records the others. What it
keeps are the lexemes of the lexer, and what it records are the diagnostics.
-/

namespace LoxLex

inductive Sieve.Mode
  | code
  | string (held : List Char)
  | comment
deriving DecidableEq

structure Sieve where
  mode : Sieve.Mode
  line : Nat
  kept : List Char
  found : List Diagnostic
deriving DecidableEq

def marks : List Char := ['(', ')', '\x7b', '\x7d', ',', '.', '-', '+', ';', '*', '/', '!', '=', '<', '>']

def isKept (c : Char) : Bool := c.isAlphanum || c = '_' || c ∈ marks

namespace Sieve

def readCode (s : Sieve) (c : Char) (after : Option Char) : Sieve :=
  if c = '"' then { s with mode := .string [c] }
  else if c = '/' ∧ after = some '/' then { s with mode := .comment }
  else if c ∈ blanks then s
  else if isKept c then { s with kept := s.kept ++ [c] }
  else { s with found := s.found ++ [.unexpectedCharacter s.line c] }

/-- A line feed ends a comment, but is no part of it. -/
def read (s : Sieve) (c : Char) (after : Option Char) : Sieve :=
  match s.mode with
  | .code => s.readCode c after
  | .string held =>
    if c = '"' then { s with mode := .code, kept := s.kept ++ held ++ [c] }
    else { s with mode := .string (held ++ [c]) }
  | .comment => if c = '\n' then { s with mode := .code }.readCode c after else s

def step (s : Sieve) (c : Char) (after : Option Char) : Sieve :=
  { s.read c after with line := s.line + if c = '\n' then 1 else 0 }

def run (s : Sieve) : List Char → Sieve
  | [] => s
  | c :: cs => (s.step c cs.head?).run cs

/-- A string that is still open is dropped. -/
def finish (s : Sieve) : List Char × List Diagnostic :=
  match s.mode with
  | .string _ => (s.kept, s.found ++ [.unterminatedString s.line])
  | _ => (s.kept, s.found)

end Sieve

def sift (cs : List Char) : List Char × List Diagnostic := (Sieve.run ⟨.code, 1, [], []⟩ cs).finish

def lexemes (ts : List Token) : List Char := ts.flatMap fun t => t.lexeme.toList

/-! ## What is kept -/

section
variable {c : Char}

theorem isKept_of_continuesWord (h : continuesWord c = true) : isKept c = true ∧ c ≠ '/' := by
  refine ⟨?_, ne_of_holds h rfl⟩
  rcases continuesWord_iff.mp h with h | h <;> simp [isKept, h]

theorem isKept_of_isDigit (h : c.isDigit = true) : isKept c = true ∧ c ≠ '/' :=
  isKept_of_continuesWord (by simp [continuesWord, h])

theorem isKept_of_single? {m : Mark} (h : Mark.single? c = some m) : isKept c = true := by
  unfold Mark.single? at h
  split at h <;> cases h <;> decide

theorem isKept_plain (h : isKept c = true) : c ≠ '"' ∧ c ∉ blanks ∧ c ≠ '\n' := by
  have hb : blanks.any isKept = false := rfl
  exact ⟨ne_of_holds h rfl, fun hc => List.any_eq_false.mp hb c hc h, ne_of_holds h rfl⟩

theorem not_isKept_of_isStray (h : isStray c = true) : isKept c = false := by
  obtain ⟨_, _, _, hd, hl, hm, _⟩ := isStray_plain h
  refine Bool.eq_false_iff.mpr fun hk => ?_
  rw [isKept, Bool.or_eq_true, Bool.or_eq_true, decide_eq_true_eq, decide_eq_true_eq] at hk
  rcases hk with hk | hk
  · have : continuesWord c = true := continuesWord_iff.mpr hk
    simp [continuesWord, hd, hl] at this
  · have hs : marks.all (fun d => (Mark.single? d).isSome) = true := rfl
    have := List.all_eq_true.mp hs c hk
    simp [hm] at this

theorem Next.isKept_of_mem {k : Shape} {p r : List Char} (hn : Next k p r) (hk : k = .numeral ∨ k = .word) :
    ∀ c ∈ p, isKept c = true ∧ c ≠ '/' := by
  intro c hc
  have ha := hn.allows c hc
  rcases hk with rfl | rfl
  · rcases Bool.or_eq_true_iff.mp ha with ha | ha
    · exact isKept_of_isDigit ha
    · rw [of_decide_eq_true ha]
      decide
  · exact isKept_of_continuesWord ha

end

/-! ## Runs of the sieve -/

namespace Sieve
variable {line : Nat} {kept : List Char} {found : List Diagnostic} {held t r : List Char} {c : Char}
  {after : Option Char}

theorem step_blank (hc : c ∈ blanks) :
    step ⟨.code, line, kept, found⟩ c after = ⟨.code, line + [c].count '\n', kept, found⟩ := by
  have hq : c ≠ '"' := by
    rintro rfl
    exact absurd hc (by decide)
  have hs : c ≠ '/' := by
    rintro rfl
    exact absurd hc (by decide)
  simp [step, read, readCode, hq, hs, hc, List.count_cons]

theorem step_kept (hc : isKept c = true) (ha : ¬(c = '/' ∧ after = some '/')) :
    step ⟨.code, line, kept, found⟩ c after = ⟨.code, line, kept ++ [c], found⟩ := by
  obtain ⟨hq, hb, hn⟩ := isKept_plain hc
  simp [step, read, readCode, hq, ha, hb, hc, hn]

theorem step_stray (hc : isStray c = true) :
    step ⟨.code, line, kept, found⟩ c after =
      ⟨.code, line, kept, found ++ [.unexpectedCharacter line c]⟩ := by
  obtain ⟨hw, hs, hq, _⟩ := isStray_plain hc
  have hb : c ∉ blanks := fun h => by simp [isWhitespace_iff.mpr h] at hw
  have hn : c ≠ '\n' := ne_of_holds hc rfl
  simp [step, read, readCode, hq, hs, hb, hn, not_isKept_of_isStray hc]

theorem step_string (hc : c ≠ '"') :
    step ⟨.string held, line, kept, found⟩ c after =
      ⟨.string (held ++ [c]), line + [c].count '\n', kept, found⟩ := by
  simp [step, read, hc, List.count_cons]

theorem step_comment (hc : c ≠ '\n') :
    step ⟨.comment, line, kept, found⟩ c after = ⟨.comment, line, kept, found⟩ := by
  simp [step, read, hc]

theorem line_run (s : Sieve) (cs : List Char) : (s.run cs).line = s.line + cs.count '\n' := by
  induction cs generalizing s with
  | nil => rfl
  | cons c cs ih =>
    rw [run, ih, step, List.count_cons]
    simp only [beq_iff_eq]
    omega

theorem run_kept (ht : ∀ c ∈ t, isKept c = true ∧ c ≠ '/') :
    run ⟨.code, line, kept, found⟩ (t ++ r) = run ⟨.code, line, kept ++ t, found⟩ r := by
  induction t generalizing kept with
  | nil => simp
  | cons c t ih =>
    obtain ⟨hc, ht⟩ := List.forall_mem_cons.mp ht
    rw [List.cons_append, run, step_kept hc.1 (fun h => hc.2 h.1), ih ht]
    simp

theorem count_kept (ht : ∀ c ∈ t, isKept c = true ∧ c ≠ '/') : t.count '\n' = 0 :=
  List.count_eq_zero.mpr fun h => (isKept_plain (ht _ h).1).2.2 rfl

theorem run_string (ht : '"' ∉ t) :
    run ⟨.string held, line, kept, found⟩ (t ++ r) =
      run ⟨.string (held ++ t), line + t.count '\n', kept, found⟩ r := by
  induction t generalizing held line with
  | nil => simp
  | cons c t ih =>
    obtain ⟨hc, ht⟩ := List.ne_and_not_mem_of_not_mem_cons ht
    rw [List.cons_append, run, step_string hc.symm, ih ht, count_cons_eq c t, Nat.add_assoc]
    simp

theorem run_comment (ht : '\n' ∉ t) :
    run ⟨.comment, line, kept, found⟩ (t ++ r) = run ⟨.comment, line, kept, found⟩ r := by
  induction t with
  | nil => rfl
  | cons c t ih =>
    obtain ⟨hc, ht⟩ := List.ne_and_not_mem_of_not_mem_cons ht
    rw [List.cons_append, run, step_comment hc.symm, ih ht]

/-- Where a comment ends, it makes no difference that there was one. -/
theorem finish_comment (hr : Stops (· ≠ '\n') r) :
    (run ⟨.comment, line, kept, found⟩ r).finish = (run ⟨.code, line, kept, found⟩ r).finish := by
  cases r with
  | nil => rfl
  | cons c r =>
    obtain rfl : c = '\n' := by simpa using hr c rfl
    rfl

/-! ### One piece -/

theorem run_mark {m : Mark} (hm : m.Ends r) :
    run ⟨.code, line, kept, found⟩ (m.spelling.toList ++ r) =
      run ⟨.code, line, kept ++ m.spelling.toList, found⟩ r := by
  obtain ⟨c, hs, hc⟩ | ⟨c, hs, hc⟩ := m.spelling_shape
  · have ha : ¬(c = '/' ∧ r.head? = some '/') := by
      rintro ⟨rfl, hr⟩
      exact (hm '/' hr).1 (by rw [hs]; rfl)
    rw [hs]
    exact congrArg (run · r) (step_kept (isKept_of_single? hc) ha)
  · rw [hs]
    apply run_kept
    obtain ⟨n, hn⟩ := single?_of_withEqual? hc
    refine List.forall_mem_cons.mpr ⟨⟨isKept_of_single? hn, ?_⟩, List.forall_mem_singleton.mpr (by decide)⟩
    rintro rfl
    cases hc

/-- A piece of code is read from code to code. What it adds is what its item says. -/
theorem run_next {k : Shape} {p : List Char} (hn : Next k p r) :
    (run ⟨.code, line, kept, found⟩ (p ++ r)).finish =
      (run ⟨.code, line + p.count '\n', kept ++ lexemes (tokensOf (k.item? line p).toList),
        found ++ diagnosticsOf (k.item? line p).toList⟩ r).finish := by
  have hw := hn.isKept_of_mem
  cases hn with
  | @blank c r hc =>
    show (run (step _ c _) r).finish = _
    rw [step_blank (isWhitespace_iff.mp hc)]
    simp [Shape.item?, lexemes]
  | @comment t r ht hr =>
    show (run ⟨.comment, line, kept, found⟩ (t ++ r)).finish = _
    rw [run_comment ht, finish_comment hr, count_comment ht]
    simp [Shape.item?, lexemes]
  | @mark m r hm =>
    have hn : m.spelling.toList.count '\n' = 0 := by cases m <;> decide
    rw [run_mark hm, hn]
    simp [Shape.item?, lexemes]
  | @string t r ht =>
    show (run ⟨.string ['"'], line, kept, found⟩ (t ++ ['"'] ++ r)).finish = _
    rw [List.append_assoc, run_string ht]
    show (run ⟨.code, line + t.count '\n', kept ++ ('"' :: t) ++ ['"'], found⟩ r).finish = _
    simp [Shape.item?, lexemes]
  | whole | pointed | word =>
    have hw := hw (by simp)
    rw [run_kept hw, count_kept hw]
    simp [Shape.item?, lexemes]
  | @openString t ht =>
    show (run ⟨.string ['"'], line, kept, found⟩ (t ++ [])).finish = _
    rw [run_string ht]
    simp [run, finish, Shape.item?, lexemes]
  | @stray c r hc =>
    have hn : [c].count '\n' = 0 := by simpa [List.count_cons] using ne_of_holds hc rfl
    show (run (step _ c _) r).finish = _
    rw [step_stray hc, hn]
    simp [Shape.item?, lexemes]

theorem run_cut {cs : List Char} {ps : List (Shape × List Char)} (h : Cut cs ps) :
    (run ⟨.code, line, kept, found⟩ cs).finish =
      (kept ++ lexemes (tokensOf (itemsFrom line ps)), found ++ diagnosticsOf (itemsFrom line ps)) := by
  induction h generalizing line kept found with
  | nil => simp [run, finish, itemsFrom_nil, lexemes, Token.endOfFile]
  | cons hn _ ih =>
    rw [run_next hn, ih, itemsFrom_cons, tokensOf_append, diagnosticsOf_append]
    simp [lexemes]

/-! ## An open string is the end -/

theorem mem_found_step {s : Sieve} {d : Diagnostic} (h : d ∈ (s.step c after).found) :
    d ∈ s.found ∨ ∃ line c, d = .unexpectedCharacter line c := by
  unfold step read readCode at h
  grind

theorem mem_found_run {cs : List Char} {d : Diagnostic} : ∀ {s : Sieve}, d ∈ (s.run cs).found →
    d ∈ s.found ∨ ∃ line c, d = .unexpectedCharacter line c := by
  induction cs with
  | nil => exact .inl
  | cons c cs ih =>
    intro s h
    rcases ih h with h | h
    · exact mem_found_step h
    · exact .inr h

theorem found_finish (s : Sieve) :
    s.finish.2 = s.found ∨ s.finish.2 = s.found ++ [.unterminatedString s.line] := by
  unfold finish
  split
  · exact .inr rfl
  · exact .inl rfl

end Sieve

/-- **No character is lost.** The lexemes are the text that a sieve keeps, and the sink receives what a sieve
records: stray characters, and after them perhaps an open string, on the last line. -/
theorem lex_sifts {σ : Type} [Sink σ] (source : String) (sink : σ) :
    lexemes (lex source sink).1 = (sift source.toList).1 ∧
      (lex source sink).2 = (sift source.toList).2.foldl Sink.receive sink ∧
      ∃ strays, (∀ d ∈ strays, ∃ line c, d = .unexpectedCharacter line c) ∧
        ((sift source.toList).2 = strays ∨
          (sift source.toList).2 = strays ++ [.unterminatedString (1 + source.toList.count '\n')]) := by
  obtain ⟨ps, hc⟩ := exists_cut source.toList
  have hs : sift source.toList = (lexemes (tokensOf (itemsFrom 1 ps)), diagnosticsOf (itemsFrom 1 ps)) :=
    Sieve.run_cut hc
  refine ⟨?_, ?_, (Sieve.run ⟨.code, 1, [], []⟩ source.toList).found, fun d hd => ?_, ?_⟩
  · rw [lex_eq, Lexer.items_ofString hc, hs]
  · rw [lex_eq, Lexer.items_ofString hc, hs]
  · rcases Sieve.mem_found_run hd with h | h
    · cases h
    · exact h
  · have h := Sieve.found_finish (Sieve.run ⟨.code, 1, [], []⟩ source.toList)
    rwa [Sieve.line_run] at h

example : sift ['"', '/', '/', '"', '/', '/', '"', '\n', '1', '?', '\n', '"', 'a', '\n'] =
    (['"', '/', '/', '"', '1'], [.unexpectedCharacter 2 '?', .unterminatedString 4]) := by decide

end LoxLex
