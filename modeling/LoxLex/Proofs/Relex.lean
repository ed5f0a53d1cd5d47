import LoxLex.Proofs.Harvest

/-!
# Tokens written down are read back

Tokens taken from any texts are written one after another, with separators between them. A blank ends every
piece that gives a token, so the tokens come out of the new text as they went in, each on the line on which
it was written.
-/

namespace LoxLex

/-- A text of blanks and of comments that end in a line feed. -/
inductive Separator : List Char → Prop
  | nil : Separator []
  | blank {c s} : c ∈ blanks → Separator s → Separator (c :: s)
  | comment {t s} : '\n' ∉ t → Separator s → Separator ('/' :: '/' :: (t ++ '\n' :: s))

def Parted (r : List Char) : Prop := ∀ c, r.head? = some c → c ∈ blanks

/-- A token, not the end of a text, that some text has. -/
def Scanned (t : Token) : Prop := t.kind ≠ .endOfFile ∧ ∃ source, t ∈ (lex source (#[] : Array Diagnostic)).1

/-- Which tokens a text has does not depend on the sink. -/
theorem mem_lex_of_mem {σ : Type} [Sink σ] {source : String} {sink : σ} {t : Token}
    (h : t ∈ (lex source sink).1) : t ∈ (lex source (#[] : Array Diagnostic)).1 := by
  rw [lex_eq] at h ⊢
  exact h

theorem scanned_of_mem {σ : Type} [Sink σ] {source : String} {sink : σ} {t : Token}
    (h : t ∈ (lex source sink).1) (hk : t.kind ≠ .endOfFile) : Scanned t := ⟨hk, source, mem_lex_of_mem h⟩

/-- Tokens with the separators after them. Only the last separator may be empty. -/
inductive Spaced : List (Token × List Char) → Prop
  | nil : Spaced []
  | last {t s} : Scanned t → Separator s → Parted s → Spaced [(t, s)]
  | cons {t s ts} : Scanned t → Separator s → Parted s → s ≠ [] → Spaced ts → Spaced ((t, s) :: ts)

def written (ts : List (Token × List Char)) : List Char := ts.flatMap fun x => x.1.lexeme.toList ++ x.2

/-- The tokens on the lines on which they are written after `w`, and the end of the text. -/
def dated (w : List Char) (ts : List (Token × List Char)) : List Token :=
  ts.mapIdx (fun i x => { x.1 with line := 1 + (w ++ written (ts.take i)).count '\n' }) ++
    [.endOfFile (1 + (w ++ written ts).count '\n')]

theorem written_cons (t : Token) (s : List Char) (ts : List (Token × List Char)) :
    written ((t, s) :: ts) = t.lexeme.toList ++ (s ++ written ts) := by
  simp [written]

theorem dated_cons (w : List Char) (t : Token) (s : List Char) (ts : List (Token × List Char)) :
    dated w ((t, s) :: ts) =
      { t with line := 1 + w.count '\n' } :: dated (w ++ (t.lexeme.toList ++ s)) ts := by
  simp [dated, written, List.mapIdx_cons]

/-! ## Pieces before a blank -/

theorem Parted.stops {f : Char → Bool} {r : List Char} (h : Parted r)
    (hf : blanks.any f = false) : Stops f r :=
  stops_of_not fun c hc => List.any_eq_false.mp hf c (h c hc)

theorem Parted.head?_ne {c : Char} {r : List Char} (h : Parted r) (hc : c ∉ blanks) :
    r.head? ≠ some c := fun e => hc (h c e)

theorem Parted.ends {r : List Char} (h : Parted r) (m : Mark) : m.Ends r := by
  intro c hc
  obtain ⟨d, hs, _⟩ | ⟨d, hs, _⟩ := m.spelling_shape
  · refine ⟨fun e => ?_, fun n hn => ?_⟩
    · rw [hs] at e
      obtain rfl : c = '/' := (List.cons.inj (List.cons.inj e).2).1
      exact h.head?_ne (by decide) hc
    · obtain rfl := (Mark.withEqual?_of_spelling (hn.trans (by rw [hs]; rfl))).1
      exact h.head?_ne (by decide) hc
  · refine ⟨by simp [hs], fun n hn => ?_⟩
    have := n.length_spelling_le
    simp [hn, hs] at this

/-- A piece is also the next one where nothing or a blank follows it, a comment and an open string apart. -/
theorem Next.parted {k : Shape} {p r r' : List Char} (h : Next k p r) (hk : k ≠ .comment)
    (ho : k ≠ .openString) (hr : Parted r') : Next k p r' := by
  cases h with
  | blank hc => exact .blank hc
  | comment => exact absurd rfl hk
  | mark => exact .mark (hr.ends _)
  | string hq => exact .string hq
  | whole hd =>
    have hp : NoPoint r' := fun e => absurd e (hr.head?_ne (by decide))
    exact .whole hd (hr.stops rfl) hp
  | pointed hd he => exact .pointed hd he (hr.stops rfl)
  | word hc hw => exact .word hc hw (hr.stops rfl)
  | openString => exact absurd rfl ho
  | stray hc => exact .stray hc

/-- A token of a text is its end or the token of a piece. -/
theorem piece_of_mem {t : Token} {source : String} (ht : t ∈ (lex source (#[] : Array Diagnostic)).1) :
    t = .endOfFile t.line ∨ ∃ k p r, Next k p r ∧ t.lexeme.toList = p ∧
      ∀ n, k.item? n p = some (.token { t with line := n }) := by
  obtain ⟨ps, hc⟩ := exists_cut source.toList
  rw [lex_eq, Lexer.items_ofString hc] at ht
  obtain ⟨i, hi, hit⟩ := List.mem_filterMap.mp ht
  obtain rfl : i = .token t := by
    cases i with
    | token u => rw [Option.some.inj hit]
    | diagnostic => cases hit
  rcases List.mem_append.mp hi with hi | hi
  · obtain ⟨q, hq, m, hm⟩ := exists_of_mem_itemsOf hi
    obtain ⟨r, hr⟩ := hc.next_of_mem q hq
    obtain ⟨hl, _, _, ht⟩ := Shape.item?_token hm
    exact .inr ⟨q.1, q.2, r, hr, hl, ht⟩
  · rw [Item.token.inj (List.mem_singleton.mp hi)]
    exact .inl rfl

theorem exists_piece {t : Token} (h : Scanned t) :
    ∃ k p r, Next k p r ∧ t.lexeme.toList = p ∧ ∀ n, k.item? n p = some (.token { t with line := n }) := by
  obtain ⟨hk, source, ht⟩ := h
  rcases piece_of_mem ht with he | hp
  · exact absurd (congrArg Token.kind he) hk
  · exact hp

/-! ## Separators and tokens in front of a text -/

section
variable {r : List Char} {ps : List (Shape × List Char)}

theorem cut_blank {c : Char} (hc : c ∈ blanks) (h : Cut r ps) :
    Cut (c :: r) ((.blank, [c]) :: ps) := .cons (.blank (isWhitespace_iff.mpr hc)) h

theorem cut_comment {t : List Char} (ht : '\n' ∉ t) (h : Cut r ps) :
    Cut ('/' :: '/' :: (t ++ '\n' :: r)) ((.comment, '/' :: '/' :: t) :: (.blank, ['\n']) :: ps) :=
  .cons (.comment ht (stops_cons (by decide))) (cut_blank (by decide) h)

theorem cut_separator {s : List Char} (hs : Separator s) (h : Cut r ps) :
    ∃ qs, Cut (s ++ r) qs ∧ ∀ line, itemsFrom line qs = itemsFrom (line + s.count '\n') ps := by
  induction hs with
  | nil => exact ⟨ps, h, fun _ => rfl⟩
  | @blank c s hc _ ih =>
    obtain ⟨qs, hq, hi⟩ := ih
    refine ⟨_, cut_blank hc hq, fun line => ?_⟩
    rw [itemsFrom_blank, hi, count_cons_eq c s, Nat.add_assoc]
  | @comment t s ht _ ih =>
    obtain ⟨qs, hq, hi⟩ := ih
    refine ⟨_, by simpa using cut_comment ht hq, fun line => ?_⟩
    have hn : ('/' :: '/' :: (t ++ '\n' :: s)).count '\n' = 1 + s.count '\n' := by
      rw [← List.cons_append, ← List.cons_append, List.count_append, count_comment ht, count_cons_eq]
      simp
    rw [itemsFrom_comment ht, itemsFrom_blank, hi, hn, ← Nat.add_assoc]
    rfl

theorem cut_token {t : Token} (ht : Scanned t) (hr : Parted r) (h : Cut r ps) :
    ∃ qs, Cut (t.lexeme.toList ++ r) qs ∧ ∀ line, itemsFrom line qs =
      .token { t with line := line } :: itemsFrom (line + t.lexeme.toList.count '\n') ps := by
  obtain ⟨k, p, r', hn, rfl, hi⟩ := exists_piece ht
  have hk : k ≠ .comment ∧ k ≠ .openString := by
    constructor <;> rintro rfl <;> cases hi 0
  refine ⟨_, .cons (hn.parted hk.1 hk.2 hr) h, fun line => ?_⟩
  rw [itemsFrom_cons, hi]
  rfl

end

theorem cut_written_cons {t : Token} {s : List Char} {ts : List (Token × List Char)}
    {ps : List (Shape × List Char)} (ht : Scanned t) (hs : Separator s) (hp : Parted (s ++ written ts))
    (h : Cut (written ts) ps)
    (hi : ∀ w : List Char, itemsFrom (1 + w.count '\n') ps = (dated w ts).map .token) :
    ∃ qs, Cut (written ((t, s) :: ts)) qs ∧
      ∀ w : List Char, itemsFrom (1 + w.count '\n') qs = (dated w ((t, s) :: ts)).map .token := by
  obtain ⟨qs, hq, hqi⟩ := cut_separator hs h
  obtain ⟨us, hu, hui⟩ := cut_token ht hp hq
  refine ⟨us, by rwa [written_cons], fun w => ?_⟩
  have hw : 1 + w.count '\n' + t.lexeme.toList.count '\n' + s.count '\n' =
      1 + (w ++ (t.lexeme.toList ++ s)).count '\n' := by
    rw [List.count_append, List.count_append]
    omega
  rw [hui, hqi, hw, hi, dated_cons, List.map_cons]

theorem exists_cut_written {ts : List (Token × List Char)} (h : Spaced ts) :
    ∃ ps, Cut (written ts) ps ∧
      ∀ w : List Char, itemsFrom (1 + w.count '\n') ps = (dated w ts).map .token := by
  induction h with
  | nil => exact ⟨[], .nil, fun w => by simp [itemsFrom_nil, dated, written]⟩
  | last ht hs hp =>
    exact cut_written_cons ht hs (by simpa [written] using hp) .nil
      fun w => by simp [itemsFrom_nil, dated, written]
  | @cons t s ts ht hs hp hne _ ih =>
    obtain ⟨ps, hc, hi⟩ := ih
    obtain ⟨c, s, rfl⟩ := List.exists_cons_of_ne_nil hne
    exact cut_written_cons ht hs hp hc hi

/-- **Tokens written down are read back.** No diagnostic reaches the sink. -/
theorem lex_written {σ : Type} [Sink σ] (sink : σ) {first : List Char} {ts : List (Token × List Char)}
    (hf : Separator first) (hs : Spaced ts) :
    lex (.ofList (first ++ written ts)) sink = (dated first ts, sink) := by
  obtain ⟨ps, hc, hi⟩ := exists_cut_written hs
  obtain ⟨qs, hq, hqi⟩ := cut_separator hf hc
  have h : (Lexer.ofString (.ofList (first ++ written ts))).items = (dated first ts).map .token := by
    rw [Lexer.items_ofString (by simpa using hq), hqi, hi]
  have ht : tokensOf ((dated first ts).map .token) = dated first ts := by
    rw [tokensOf, List.filterMap_map]
    exact List.filterMap_some
  have hd : diagnosticsOf ((dated first ts).map .token) = [] := by
    rw [diagnosticsOf, List.filterMap_map]
    exact List.filterMap_eq_nil_iff.mpr fun _ _ => rfl
  rw [lex_eq, h, ht, hd]
  rfl

theorem lex_written_number_point_string :
    lex "// 1\n1\t.\n\"a\n\"" (#[] : Array Diagnostic) =
      ([⟨.number, "1", some (.number ⟨0x3ff0000000000000⟩), 2⟩, ⟨.mark .dot, ".", none, 2⟩,
        ⟨.string, "\"a\n\"", some (.string "a\n"), 3⟩, .endOfFile 4], #[]) := by
  have h₁ : Scanned ⟨.number, "1", some (.number ⟨0x3ff0000000000000⟩), 1⟩ :=
    ⟨nofun, "1", List.mem_of_getElem? (i := 0) (by decide +kernel)⟩
  have h₂ : Scanned ⟨.mark .dot, ".", none, 1⟩ := ⟨nofun, ".", List.mem_of_getElem? (i := 0) (by decide +kernel)⟩
  have h₃ : Scanned ⟨.string, "\"a\n\"", some (.string "a\n"), 1⟩ :=
    ⟨nofun, "\"a\n\"", List.mem_of_getElem? (i := 0) (by decide +kernel)⟩
  have hf : Separator ['/', '/', ' ', '1', '\n'] := .comment (t := [' ', '1']) (by decide) .nil
  have hs : Spaced [(_, ['\t']), (_, ['\n']), (_, [])] :=
    .cons h₁ (.blank (by decide) .nil) (by simp [Parted, blanks]) nofun
      (.cons h₂ (.blank (by decide) .nil) (by simp [Parted, blanks]) nofun (.last h₃ .nil nofun))
  refine Eq.trans (congrArg (lex · _) ?_) ((lex_written #[] hf hs).trans ?_)
  · decide +kernel
  · decide +kernel

end LoxLex
