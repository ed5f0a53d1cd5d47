import LoxLex.Lexer.Stream
import LoxLex.Proofs.Shape

/-!
# A round reads the next piece

A round of a lexer gives the item of the next piece of what is left and hands the characters of that piece
over, no more and no fewer. Since rounds are computed, a text has only one next piece.
-/

namespace LoxLex

/-! ## Numerals -/

section
variable {ds es : List Char}

theorem Numeral.ofDigits_digits (hd : IsDigits ds) : ofDigits ds = ⟨shiftIn 0 ds, 0⟩ := by
  have hr : ds.dropWhile Char.isDigit = [] := by simpa using dropWhile_run (r := []) hd.2 stops_nil
  simp [ofDigits, hr, List.filter_eq_self.mpr hd.2]

theorem Numeral.ofDigits_pointed (hd : IsDigits ds) (he : IsDigits es) :
    ofDigits (ds ++ '.' :: es) = ⟨shiftIn 0 (ds ++ es), es.length⟩ := by
  have hr : (ds ++ '.' :: es).dropWhile Char.isDigit = '.' :: es := dropWhile_run hd.2 (stops_cons rfl)
  simp [ofDigits, hr, List.filter_eq_self.mpr hd.2, List.filter_eq_self.mpr he.2]

theorem Numeral.parse?_digits (hd : IsDigits ds) : parse? ds = some (ofDigits ds) := by
  have ht : ds.takeWhile Char.isDigit = ds := by simpa using takeWhile_run (r := []) hd.2 stops_nil
  have hr : ds.dropWhile Char.isDigit = [] := by simpa using dropWhile_run (r := []) hd.2 stops_nil
  simp [parse?, ofDigits_digits hd, ht, hr, hd.1]

theorem Numeral.parse?_pointed (hd : IsDigits ds) (he : IsDigits es) :
    parse? (ds ++ '.' :: es) = some (ofDigits (ds ++ '.' :: es)) := by
  have hp : Stops Char.isDigit ('.' :: es) := stops_cons rfl
  have ht : (ds ++ '.' :: es).takeWhile Char.isDigit = ds := takeWhile_run hd.2 hp
  have hr : (ds ++ '.' :: es).dropWhile Char.isDigit = '.' :: es := dropWhile_run hd.2 hp
  simp [parse?, ofDigits_pointed hd he, ht, hr, hd.1, he.1, List.all_eq_true.mpr he.2]

end

theorem all_ne {x : Char} {t : List Char} (h : x ∉ t) : ∀ c ∈ t, decide (c ≠ x) = true := by
  intro c hc
  rw [decide_eq_true_eq]
  rintro rfl
  exact h hc

namespace Lexer
variable {l : Lexer} {b t r : List Char} {c : Char}

/-! ## The rest of a piece -/

theorem readString_closed (h : l.Splits b ['"'] (t ++ '"' :: r)) (ht : '"' ∉ t) :
    l.readString.1 = .token ⟨.string, .ofList ('"' :: (t ++ ['"'])), some (.string (.ofList t)), 1 + b.count '\n'⟩ ∧
      l.readString.2.Splits b ('"' :: (t ++ ['"'])) r := by
  have h₁ := h.skipWhile (all_ne ht) (stops_cons (by decide))
  have h₂ : (l.skipWhile (· ≠ '"')).advance.Splits b ('"' :: (t ++ ['"'])) r := by simpa using h₁.advance
  unfold readString
  simp only [h₁.peek?, List.head?_cons]
  refine ⟨?_, h₂⟩
  rw [h₂.token, h₂.inner? rfl rfl]
  rfl

theorem readString_open (h : l.Splits b ['"'] t) (ht : '"' ∉ t) :
    l.readString.1 = .diagnostic (.unterminatedString (1 + b.count '\n' + ('"' :: t).count '\n')) ∧
      l.readString.2.Splits b ('"' :: t) [] := by
  have h₁ : (l.skipWhile (· ≠ '"')).Splits b ('"' :: t) [] :=
    Splits.skipWhile (p := ['"']) (by simpa using h) (all_ne ht) stops_nil
  unfold readString
  simp only [h₁.peek?, List.head?_nil]
  refine ⟨?_, h₁⟩
  rw [h₁.line, List.count_append, Nat.add_assoc]

theorem skipNumeral_digits (h : l.Splits b [c] (t ++ r)) (ht : ∀ d ∈ t, d.isDigit = true)
    (hr : Stops Char.isDigit r) (hp : NoPoint r) : l.skipNumeral.Splits b (c :: t) r := by
  have h₁ := h.skipWhile ht hr
  unfold skipNumeral
  simp only [h₁.peek?, h₁.peekSecond?]
  rw [if_neg]
  · exact h₁
  · rintro ⟨hd, he⟩
    obtain ⟨e, he, hed⟩ := Option.any_eq_true _ _ |>.mp he
    rw [hp hd e he] at hed
    cases hed

theorem skipNumeral_pointed {es : List Char} (h : l.Splits b [c] (t ++ '.' :: (es ++ r)))
    (ht : ∀ d ∈ t, d.isDigit = true) (he : IsDigits es) (hr : Stops Char.isDigit r) :
    l.skipNumeral.Splits b (c :: t ++ '.' :: es) r := by
  have h₁ := h.skipWhile ht (stops_cons rfl)
  have h₂ := h₁.advance.skipWhile he.2 hr
  unfold skipNumeral
  simp only [h₁.peek?, h₁.peekSecond?]
  rw [if_pos]
  · simpa using h₂
  · obtain ⟨e, es, rfl⟩ := List.exists_cons_of_ne_nil he.1
    exact ⟨rfl, he.2 e (List.mem_cons_self ..)⟩

theorem readNumber_of_skipNumeral {p : List Char} (h : l.skipNumeral.Splits b p r)
    (hp : Numeral.parse? p = some (Numeral.ofDigits p)) :
    l.readNumber.1 = .token ⟨.number, .ofList p, some (.number (Numeral.ofDigits p).value), 1 + b.count '\n'⟩ ∧
      l.readNumber.2.Splits b p r := by
  unfold readNumber
  refine ⟨?_, h⟩
  simp only [h.token, h.lexeme?, Option.getD_some, String.toList_ofList, hp]
  rfl

theorem readWord_run (h : l.Splits b [c] (t ++ r)) (ht : ∀ d ∈ t, continuesWord d = true)
    (hr : Stops continuesWord r) :
    l.readWord.1 = .token ⟨(Kind.ofSpelling? (.ofList (c :: t))).getD .identifier, .ofList (c :: t), none,
        1 + b.count '\n'⟩ ∧
      l.readWord.2.Splits b (c :: t) r := by
  have h₁ : (l.skipWhile continuesWord).Splits b (c :: t) r := h.skipWhile ht hr
  unfold readWord
  refine ⟨?_, h₁⟩
  simp only [h₁.token, h₁.lexeme?, Option.getD_some]

theorem readMark_single {m : Mark} (h : l.Splits b [c] r) (hm : Mark.single? c = some m)
    (hr : (Mark.withEqual? c).isSome = true → r.head? ≠ some '=') :
    l.readMark c = (.token ⟨.mark m, .ofList [c], none, 1 + b.count '\n'⟩, l) := by
  unfold readMark
  rw [h.peek?, hm]
  split
  · rename_i hw he
    exact absurd he (hr (by rw [hw]; rfl))
  · simp only [h.token]

theorem readMark_withEqual {m : Mark} (h : l.Splits b [c] ('=' :: r)) (hm : Mark.withEqual? c = some m) :
    l.readMark c = (.token ⟨.mark m, .ofList [c, '='], none, 1 + b.count '\n'⟩, l.advance) := by
  have h₁ : l.advance.Splits b [c, '='] r := h.advance
  unfold readMark
  simp only [hm, h.peek?, List.head?_cons, h₁.token]

theorem readMark_stray (h : l.Splits b [c] r) (hm : Mark.single? c = none) (he : Mark.withEqual? c = none) :
    l.readMark c = (.diagnostic (.unexpectedCharacter (1 + (b ++ [c]).count '\n') c), l) := by
  unfold readMark
  rw [he, hm, h.line]

/-! ## One round -/

theorem readPiece_item (hw : c.isWhitespace = false) (hc : ¬(c = '/' ∧ l.cursor.peek? = some '/')) :
    l.readPiece c = (some (l.readItem c).1, (l.readItem c).2) := by
  unfold readPiece
  rw [if_neg (by simp [hw]), if_neg hc]

theorem readPiece_readNumber (hc : c.isDigit = true) :
    l.readPiece c = (some l.readNumber.1, l.readNumber.2) := by
  obtain ⟨hw, hs, hq⟩ := isDigit_plain hc
  rw [readPiece_item hw (fun h => hs h.1), readItem, if_neg hq, if_pos hc]

theorem readPiece_readMark (hw : c.isWhitespace = false) (hq : c ≠ '"') (hd : c.isDigit = false)
    (hl : startsWord c = false) (hc : ¬(c = '/' ∧ l.cursor.peek? = some '/')) :
    l.readPiece c = (some (l.readMark c).1, (l.readMark c).2) := by
  rw [readPiece_item hw hc, readItem, if_neg hq, if_neg (by simp [hd]), if_neg (by simp [hl])]

/-- A lexer that has just taken the first character of the next piece reads the rest of it. -/
theorem readPiece_of_next {k : Shape} {p : List Char} (hn : Next k p r) :
    ∃ c t, p = c :: t ∧ ∀ {l : Lexer}, l.Splits b [c] (t ++ r) →
      (l.readPiece c).1 = k.item? (1 + b.count '\n') p ∧ (l.readPiece c).2.Splits b p r := by
  cases hn with
  | @blank c r hc =>
    refine ⟨c, [], rfl, fun {l} h => ?_⟩
    rw [readPiece, if_pos hc]
    exact ⟨rfl, h⟩
  | @comment t r ht hr =>
    refine ⟨'/', '/' :: t, rfl, fun {l} h => ?_⟩
    have hp : '/' = '/' ∧ l.cursor.peek? = some '/' := ⟨rfl, h.peek?⟩
    rw [readPiece, if_neg (by decide), if_pos hp]
    have ht' : ∀ d ∈ '/' :: t, decide (d ≠ '\n') = true :=
      List.forall_mem_cons.mpr ⟨by decide, all_ne ht⟩
    exact ⟨rfl, h.skipWhile ht' hr⟩
  | @mark m r hr =>
    obtain ⟨c, hs, hm⟩ | ⟨c, hs, hm⟩ := m.spelling_shape
    · obtain ⟨hw, hq, hd, hl⟩ := single?_plain hm
      refine ⟨c, [], hs, fun {l} h => ?_⟩
      -- the mark ends here, so that neither a comment nor a longer mark begins
      have hc : ¬(c = '/' ∧ l.cursor.peek? = some '/') := by
        rintro ⟨rfl, hp⟩
        exact (hr '/' (h.peek?.symm.trans hp)).1 (by rw [hs]; rfl)
      have he : (Mark.withEqual? c).isSome = true → r.head? ≠ some '=' := by
        intro he hp
        obtain ⟨n, hn⟩ := Option.isSome_iff_exists.mp he
        exact (hr '=' hp).2 n (by rw [hs, Mark.spelling_of_withEqual? hn, String.toList_ofList]; rfl)
      rw [readPiece_readMark hw hq hd hl hc, readMark_single h hm he, hs]
      exact ⟨rfl, h⟩
    · obtain ⟨n, hn⟩ := single?_of_withEqual? hm
      obtain ⟨hw, hq, hd, hl⟩ := single?_plain hn
      refine ⟨c, ['='], hs, fun {l} h => ?_⟩
      have hc : ¬(c = '/' ∧ l.cursor.peek? = some '/') := by
        rintro ⟨_, hp⟩
        rw [h.peek?] at hp
        exact absurd (Option.some.inj hp) (by decide)
      rw [readPiece_readMark hw hq hd hl hc, readMark_withEqual h hm, hs]
      exact ⟨rfl, h.advance⟩
  | @string t r ht =>
    refine ⟨'"', t ++ ['"'], rfl, fun {l} h => ?_⟩
    obtain ⟨hi, hl⟩ := readString_closed (by simpa using h) ht
    rw [readPiece_item (by decide) (by simp), readItem, if_pos rfl, hi]
    exact ⟨by simp [Shape.item?], hl⟩
  | @whole ds r hd hr hp =>
    obtain ⟨c, t, rfl⟩ := List.exists_cons_of_ne_nil hd.1
    obtain ⟨hc, ht⟩ := List.forall_mem_cons.mp hd.2
    refine ⟨c, t, rfl, fun {l} h => ?_⟩
    obtain ⟨hi, hl⟩ := readNumber_of_skipNumeral (skipNumeral_digits h ht hr hp) (Numeral.parse?_digits hd)
    rw [readPiece_readNumber hc, hi]
    exact ⟨rfl, hl⟩
  | @pointed ds es r hd he hr =>
    obtain ⟨c, t, rfl⟩ := List.exists_cons_of_ne_nil hd.1
    obtain ⟨hc, ht⟩ := List.forall_mem_cons.mp hd.2
    refine ⟨c, t ++ '.' :: es, rfl, fun {l} h => ?_⟩
    have h₁ : l.skipNumeral.Splits b (c :: t ++ '.' :: es) r := skipNumeral_pointed (by simpa using h) ht he hr
    obtain ⟨hi, hl⟩ := readNumber_of_skipNumeral h₁ (Numeral.parse?_pointed hd he)
    rw [readPiece_readNumber hc, hi]
    exact ⟨rfl, hl⟩
  | @word c t r hc ht hr =>
    obtain ⟨hw, hs, hq, hd⟩ := startsWord_plain hc
    refine ⟨c, t, rfl, fun {l} h => ?_⟩
    obtain ⟨hi, hl⟩ := readWord_run h ht hr
    rw [readPiece_item hw (by simp [hs]), readItem, if_neg hq, if_neg (by simp [hd]), if_pos hc, hi]
    exact ⟨rfl, hl⟩
  | @openString t ht =>
    refine ⟨'"', t, rfl, fun {l} h => ?_⟩
    obtain ⟨hi, hl⟩ := readString_open (by simpa using h) ht
    rw [readPiece_item (by decide) (by simp), readItem, if_pos rfl, hi]
    exact ⟨rfl, hl⟩
  | @stray c r hc =>
    obtain ⟨hw, hs, hq, hd, hl, hm, he⟩ := isStray_plain hc
    refine ⟨c, [], rfl, fun {l} h => ?_⟩
    have hf : c ≠ '\n' := ne_of_holds hc rfl
    rw [readPiece_readMark hw hq hd hl (fun h => hs h.1), readMark_stray h hm he]
    exact ⟨by simp [Shape.item?, hf], h⟩

/-- **One round.** It gives the item of the next piece, dated by the line on which the piece begins. -/
theorem round_of_next {a p : List Char} {k : Shape} (h : l.Splits b a (p ++ r)) (hn : Next k p r) :
    ∃ c t, p ++ r = c :: t ∧ (l.round c).1 = k.item? l.cursor.place.line p ∧
      (l.round c).2.Splits (b ++ a) p r := by
  obtain ⟨c, t, rfl, hc⟩ := readPiece_of_next (b := b ++ a) hn
  have h₁ : l.mark.advance.Splits (b ++ a) [c] (t ++ r) := h.mark.advance
  rw [h.line]
  exact ⟨c, t ++ r, rfl, hc h₁⟩

theorem exists_round {a : List Char} (h : l.Splits b a (c :: r)) : ∃ k p r', c :: r = p ++ r' ∧ Next k p r' ∧
    (l.round c).1 = k.item? l.cursor.place.line p ∧ (l.round c).2.Splits (b ++ a) p r' := by
  obtain ⟨k, p, r', e, hn⟩ := exists_next c r
  rw [e] at h
  obtain ⟨d, t, hd, hi, h₁⟩ := round_of_next h hn
  obtain rfl : c = d := (List.cons.inj (e.trans hd)).1
  exact ⟨k, p, r', e, hn, hi, h₁⟩

end Lexer

/-! ## Only one next piece -/

theorem next_unique {k k' : Shape} {p p' r r' : List Char} (h : Next k p r) (h' : Next k' p' r')
    (e : p ++ r = p' ++ r') : k = k' ∧ p = p' ∧ r = r' := by
  have hs : (Lexer.ofString (.ofList (p ++ r))).Splits [] [] (p ++ r) := by
    simpa using Lexer.splits_ofString (.ofList (p ++ r))
  have hs' : (Lexer.ofString (.ofList (p ++ r))).Splits [] [] (p' ++ r') := by rw [← e]; exact hs
  obtain ⟨c, t, hc, _, h₁⟩ := Lexer.round_of_next hs h
  obtain ⟨c', t', hc', _, h₂⟩ := Lexer.round_of_next hs' h'
  obtain rfl : c = c' := (List.cons.inj (hc.symm.trans (e.trans hc'))).1
  obtain rfl : r = r' := h₁.rest.symm.trans h₂.rest
  obtain rfl : p = p' := List.append_cancel_right e
  exact ⟨h.shape_eq.symm.trans h'.shape_eq, rfl, rfl⟩

end LoxLex
