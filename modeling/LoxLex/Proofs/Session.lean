import LoxLex.Proofs.Output

/-!
# Sessions

Typed lines are answered one by one. An answer is made of its line alone, so a string that a line leaves open
and its other faults are told and forgotten. A line that is no text ends the session and is not answered, nor
are the lines after it.
-/

namespace LoxLex

/-! ## Lines -/

/-- The lines of some bytes. A line feed ends each of them, but may be missing behind the last. -/
inductive Lines : List UInt8 → List (List UInt8) → Prop
  | nil : Lines [] []
  | last {l} : l ≠ [] → lineFeed ∉ l → Lines l [l]
  | cons {l bs ls} : lineFeed ∉ l → Lines bs ls → Lines (l ++ lineFeed :: bs) ((l ++ [lineFeed]) :: ls)

section
variable {bs l p : List UInt8} {ls : List (List UInt8)}

theorem Lines.append_head (hp : lineFeed ∉ p) (h : Lines bs (l :: ls)) : Lines (p ++ bs) ((p ++ l) :: ls) := by
  cases h with
  | last hn hl => exact .last (by simp [hn]) (by simp [hp, hl])
  | @cons l _ _ hl h => simpa using Lines.cons (l := p ++ l) (by simp [hp, hl]) h

theorem exists_lines (bs : List UInt8) : ∃ ls, Lines bs ls := by
  induction bs with
  | nil => exact ⟨[], .nil⟩
  | cons b bs ih =>
    obtain ⟨ls, h⟩ := ih
    by_cases hb : b = lineFeed
    · subst hb
      exact ⟨_, .cons (l := []) (by simp) h⟩
    · have hb : lineFeed ∉ [b] := by simpa using Ne.symm hb
      cases ls with
      | nil =>
        cases h
        exact ⟨_, .last (by simp) hb⟩
      | cons l ls => exact ⟨_, h.append_head hb⟩

theorem splitLines_go_append (hl : lineFeed ∉ l) (bs line : List UInt8) (lines : Array (List UInt8)) :
    splitLines.go (l ++ bs) line lines = splitLines.go bs (l.reverse ++ line) lines := by
  induction l generalizing line with
  | nil => rfl
  | cons b l ih =>
    obtain ⟨hb, hl⟩ := List.ne_and_not_mem_of_not_mem_cons hl
    rw [List.cons_append, splitLines.go, if_neg hb.symm, ih hl]
    simp

theorem splitLines_go_of_lines (h : Lines bs ls) (lines : Array (List UInt8)) :
    splitLines.go bs [] lines = lines.toList ++ ls := by
  induction h generalizing lines with
  | nil => simp [splitLines.go]
  | @last l hne hl =>
    have h := splitLines_go_append hl [] [] lines
    rw [List.append_nil, List.append_nil] at h
    rw [h, splitLines.go]
    · simp
    · simpa using hne
  | cons hl _ ih =>
    rw [splitLines_go_append hl, splitLines.go, if_pos rfl, ih]
    simp

theorem splitLines_eq_of_lines (h : Lines bs ls) : splitLines bs = ls := by
  simpa [splitLines] using splitLines_go_of_lines h #[]

theorem Lines.flatten (h : Lines bs ls) : ls.flatten = bs := by
  rw [← splitLines_eq_of_lines h, flatten_splitLines]

end

/-! ## Texts -/

def utf8 (t : String) : List UInt8 := t.toByteArray.data.toList

theorem decodeUtf8?_eq_some_iff {bs : List UInt8} {t : String} : decodeUtf8? bs = some t ↔ utf8 t = bs := by
  unfold decodeUtf8? String.fromUTF8? utf8
  constructor
  · intro h
    split at h
    · obtain rfl := Option.some.inj h
      rfl
    · cases h
  · rintro rfl
    exact dif_pos t.isValidUTF8

theorem lexBytes_utf8 (t : String) : lexBytes (utf8 t) = .ok ((Lexer.ofString t).harvest #[]) := by
  rw [lexBytes, decodeUtf8?_eq_some_iff.mpr rfl]

theorem lexBytes_of_not_utf8 {bs : List UInt8} (h : ∀ t, utf8 t ≠ bs) : lexBytes bs = .error .invalidUtf8 := by
  unfold lexBytes
  split
  · rename_i t ht
    exact absurd (decodeUtf8?_eq_some_iff.mp ht) (h t)
  · rfl

/-! ## Answers -/

namespace Settings
variable (s : Settings)

def answer (t : String) : List Output := .prompt :: s.outputs ((Lexer.ofString t).harvest #[])

/-! ### Turns -/

theorem turn_utf8 (t : String) : s.turn (some (utf8 t)) = .next (s.outputs ((Lexer.ofString t).harvest #[])) := by
  rw [turn, lexBytes_utf8]

theorem turn_not_utf8 {bad : List UInt8} (hb : ∀ t, utf8 t ≠ bad) :
    s.turn (some bad) = .last ⟨s.giveUp .invalidUtf8, .unreadable⟩ := by
  rw [turn, lexBytes_of_not_utf8 hb]

variable {s} {lines : List (List UInt8)}

theorem session_go_next {outputs : List Output} (h : s.turn lines.head? = .next outputs) (done : Array Output) :
    session.go s lines done = session.go s lines.tail (done.push .prompt ++ outputs) := by
  rw [session.go]
  split
  · rename_i h'
    rw [Turn.next.inj (h.symm.trans h')]
  · rename_i h'
    cases h.symm.trans h'

theorem session_go_last {o : Outcome} (h : s.turn lines.head? = .last o) (done : Array Output) :
    session.go s lines done = ⟨(done.push .prompt).toList ++ o.outputs, o.exit⟩ := by
  rw [session.go]
  split
  · rename_i h'
    cases h.symm.trans h'
  · rename_i h'
    rw [Turn.last.inj (h.symm.trans h')]

/-! ### Sessions -/

variable (s)

theorem session_go_utf8 (ts : List String) (lines : List (List UInt8)) (done : Array Output) :
    session.go s (ts.map utf8 ++ lines) done = session.go s lines (done ++ ts.flatMap s.answer) := by
  induction ts generalizing done with
  | nil => simp
  | cons t ts ih =>
    have hd : done.push .prompt ++ s.outputs ((Lexer.ofString t).harvest #[]) ++ ts.flatMap s.answer =
        done ++ (t :: ts).flatMap s.answer := by
      apply Array.toList_inj.mp
      simp [answer]
    rw [List.map_cons, List.cons_append, session_go_next (s.turn_utf8 t), List.tail_cons, ih, hd]

theorem session_utf8 (ts : List String) :
    s.session (ts.map utf8) = ⟨ts.flatMap s.answer ++ [.prompt], .success⟩ := by
  have h := s.session_go_utf8 ts [] #[]
  rw [List.append_nil] at h
  rw [session, h, session_go_last rfl]
  simp

theorem session_not_utf8 (ts : List String) {bad : List UInt8} (hb : ∀ t, utf8 t ≠ bad)
    (later : List (List UInt8)) :
    s.session (ts.map utf8 ++ bad :: later) =
      ⟨ts.flatMap s.answer ++ .prompt :: s.giveUp .invalidUtf8, .unreadable⟩ := by
  rw [session, session_go_utf8, session_go_last (s.turn_not_utf8 hb)]
  simp

end Settings

/-! ## What is said -/

/-- The listing of a line that is read by itself. -/
def lineListing (quiet : Bool) (t : String) : String :=
  if quiet then "" else listing (lex t (#[] : Array Diagnostic)).1

/-- The diagnostics of a line that is read by itself, each on a line of its own. -/
def lineDiagnostics (t : String) : String :=
  .join ((lex t (#[] : Array Diagnostic)).2.toList.map fun d =>
    "[line " ++ toString d.line ++ "] Error: " ++ d.message ++ "\n")

theorem Settings.stdout_answers (s : Settings) (ts : List String) :
    String.join ((ts.flatMap s.answer).map Output.toStdout) =
      String.join (ts.map fun t => "> " ++ lineListing s.quiet t) := by
  have h : ∀ t, String.join ((s.answer t).map Output.toStdout) = "> " ++ lineListing s.quiet t := by
    intro t
    rw [answer, List.map_cons, String.join_cons, stdout_outputs]
    rfl
  rw [join_flatMap]
  simp only [h]

theorem Settings.complaints_answers (s : Settings) (ts : List String) :
    String.join ((ts.flatMap s.answer).map Output.complaint) = String.join (ts.map lineDiagnostics) := by
  have h : ∀ t, String.join ((s.answer t).map Output.complaint) = lineDiagnostics t := by
    intro t
    rw [answer, List.map_cons, String.join_cons, complaints_outputs]
    exact String.empty_append
  rw [join_flatMap]
  simp only [h]

section
variable {w : Surroundings} {o : Options} (hr : Request.ofArguments w.arguments = .ok (.run o))
  (hs : o.script = none) {ls : List (List UInt8)} (hl : Lines w.input ls)
include hr hs hl

theorem run_eq_session : run w = (Settings.ofOptions o w.logSetting).session ls := by
  rw [run_eq_perform hr, hs, Settings.perform, splitLines_eq_of_lines hl]

theorem run_utf8 {ts : List String} (ht : ls = ts.map utf8) :
    (run w).exit.code = 0 ∧
      (run w).stdout = String.join (ts.map fun t => "> " ++ lineListing o.quiet t) ++ "> " ∧
      (run w).complaints = String.join (ts.map lineDiagnostics) := by
  rw [run_eq_session hr hs hl, ht, Settings.session_utf8]
  refine ⟨rfl, ?_, ?_⟩
  · rw [Outcome.stdout, List.map_append, String.join_append, Settings.stdout_answers]
    rfl
  · rw [Outcome.complaints, List.map_append, String.join_append, Settings.complaints_answers]
    exact String.append_empty

theorem run_not_utf8 {ts : List String} {bad : List UInt8} {later : List (List UInt8)}
    (ht : ls = ts.map utf8 ++ bad :: later) (hb : ∀ t, utf8 t ≠ bad) :
    run w = ⟨ts.flatMap (Settings.ofOptions o w.logSetting).answer ++
      .prompt :: (Settings.ofOptions o w.logSetting).giveUp .invalidUtf8, .unreadable⟩ := by
  rw [run_eq_session hr hs hl, ht, Settings.session_not_utf8 _ _ hb]

end

/-- **Typed lines.** They are answered up to the first that is no text, and about that one and those after it
nothing is said, whatever they are. -/
theorem run_typed_lines (w : Surroundings) {o : Options}
    (hr : Request.ofArguments w.arguments = .ok (.run o)) (hs : o.script = none) :
    ∃ ls, Lines w.input ls ∧ (∀ ls', Lines w.input ls' → ls' = ls) ∧
      (∀ ts : List String, ls = ts.map utf8 →
        (run w).exit.code = 0 ∧
        (run w).stdout = String.join (ts.map fun t => "> " ++ lineListing o.quiet t) ++ "> " ∧
        (run w).complaints = String.join (ts.map lineDiagnostics)) ∧
      ∀ (ts : List String) bad later, ls = ts.map utf8 ++ bad :: later → (∀ t, utf8 t ≠ bad) →
        (run w).exit.code = 74 ∧
        (run w).stdout = String.join (ts.map fun t => "> " ++ lineListing o.quiet t) ++ "> " ∧
        (run w).complaints = String.join (ts.map lineDiagnostics) ++ "stream did not contain valid UTF-8\n" ∧
        (∃ before, (run w).stderr = before ++ "stream did not contain valid UTF-8\n") ∧
        ∀ input bad' later', Lines input (ts.map utf8 ++ bad' :: later') → (∀ t, utf8 t ≠ bad') →
          run { w with input } = run w := by
  obtain ⟨ls, hl⟩ := exists_lines w.input
  refine ⟨ls, hl, fun ls' h => ?_, fun ts ht => run_utf8 hr hs hl ht, fun ts bad later ht hb => ?_⟩
  · exact (splitLines_eq_of_lines h).symm.trans (splitLines_eq_of_lines hl)
  have h := run_not_utf8 hr hs hl ht hb
  refine ⟨by rw [h]; rfl, ?_, ?_, ?_, fun input bad' later' hl' hb' => ?_⟩
  · rw [h, Outcome.stdout, List.map_append, String.join_append, Settings.stdout_answers, List.map_cons,
      String.join_cons, Settings.join_giveUp _ fun _ => rfl]
    rfl
  · rw [h, Outcome.complaints, List.map_append, String.join_append, Settings.complaints_answers,
      List.map_cons, String.join_cons, Settings.join_giveUp _ fun _ => rfl]
    rfl
  · rw [h, Outcome.stderr, Settings.giveUp, ← List.cons_append, ← List.append_assoc, List.map_append,
      String.join_append]
    exact ⟨_, rfl⟩
  · rw [h]
    exact run_not_utf8 (w := { w with input }) hr hs hl' rfl hb'

/-- A string left open, a stray character, and then a line that is no text. -/
theorem run_typed_lines_third_not_utf8 :
    (fun o : Outcome => (o.exit.code, o.stdout, o.complaints))
        (run ⟨[], none, fun _ => .error .notFound, [34, 97, 10, 64, 49, 10, 255, 10, 120]⟩) =
      (74, ">    2 EOF\n>    1 NUMBER        1 1\n   2 EOF\n> ",
        "[line 2] Error: Unterminated string\n[line 1] Error: Unexpected character: @\n" ++
          "stream did not contain valid UTF-8\n") := by
  have hl : Lines [34, 97, 10, 64, 49, 10, 255, 10, 120] [[34, 97, 10], [64, 49, 10], [255, 10], [120]] :=
    .cons (l := [34, 97]) (by decide) (.cons (l := [64, 49]) (by decide)
      (.cons (l := [255]) (by decide) (.last (by decide) (by decide))))
  have hb : ∀ t, utf8 t ≠ [255, 10] := by
    intro t ht
    have hn : decodeUtf8? [255, 10] = none := by decide +kernel
    rw [decodeUtf8?_eq_some_iff.mpr ht] at hn
    cases hn
  obtain ⟨ls, _, hu, _, h⟩ := run_typed_lines
    ⟨[], none, fun _ => .error .notFound, [34, 97, 10, 64, 49, 10, 255, 10, 120]⟩
    (o := ⟨false, false, none⟩) rfl rfl
  obtain rfl := hu _ hl
  obtain ⟨h₁, h₂, h₃, _⟩ := h ["\"a\n", "@1\n"] [255, 10] [[120]] (by decide +kernel) hb
  simp only [h₁, h₂, h₃]
  decide +kernel

end LoxLex
