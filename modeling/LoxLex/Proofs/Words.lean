import LoxLex.Proofs.Layout
import LoxLex.Proofs.Munch
import LoxLex.Proofs.Playback

/-!
# Words

A word is a reserved word if the table of reserved words has it, and else a name. No other piece is spelled
like a word, so the table and the kind of a token agree. A word is taken whole: behind it stands nothing that
could continue it, and before it nothing that a word has, but for the end of a number.
-/

namespace LoxLex

/-! ## Reserved words and names -/

theorem Keyword.fits_spelling (k : Keyword) : Shape.word.Fits k.spelling.toList := by
  have h : ∀ {c : Char} {t : List Char}, k.spelling.toList = c :: t → c.isAlpha = true →
      t.all continuesWord = true → Shape.word.Fits k.spelling.toList := by
    intro c t hs hc ht
    exact ⟨c, t, .inl hc, fun d hd => continuesWord_iff.mp (List.all_eq_true.mp ht d hd), hs⟩
  cases k <;> exact h rfl rfl (by decide)

theorem Kind.of_ofSpelling? {text : String} {k : Kind} (h : ofSpelling? text = some k) :
    Shape.word.Fits text.toList ∧ k.isKeyword = true := by
  obtain ⟨w, hw, rfl⟩ := Option.map_eq_some_iff.mp h
  rw [← Keyword.spelling_of_ofSpelling? hw]
  exact ⟨w.fits_spelling, rfl⟩

section
variable {k : Shape} {p r : List Char} {t : Token}

theorem next_of_fits_word (h : Shape.word.Fits p) : Next .word p [] := by
  obtain ⟨c, t, hc, ht, rfl⟩ := h
  exact .word (startsWord_iff.mpr hc) (fun d hd => continuesWord_iff.mpr (ht d hd)) stops_nil

/-- A piece is spelled like a word only if it is one. -/
theorem Next.fits_word_iff (h : Next k p r) : Shape.word.Fits p ↔ k = .word := by
  constructor
  · intro hp
    exact h.shape_eq.symm.trans (next_of_fits_word hp).shape_eq
  · rintro rfl
    exact (begins_of_next h nofun).fits

theorem Shape.item?_kind {n : Nat} (h : k.item? n p = some (.token t)) :
    if k = .word then t.kind = (Kind.ofSpelling? t.lexeme).getD .identifier
    else t.kind ≠ .identifier ∧ t.kind.isKeyword = false := by
  cases k <;> cases h <;> simp [Kind.isKeyword]

theorem kind_of_mem {source : String} (ht : t ∈ (lex source (#[] : Array Diagnostic)).1) :
    (Shape.word.Fits t.lexeme.toList → t.kind = (Kind.ofSpelling? t.lexeme).getD .identifier) ∧
    (¬ Shape.word.Fits t.lexeme.toList → t.kind ≠ .identifier ∧ t.kind.isKeyword = false) := by
  rcases piece_of_mem ht with he | ⟨k, p, r, hn, hp, hi⟩
  · rw [he]
    refine ⟨?_, fun _ => ⟨nofun, rfl⟩⟩
    rintro ⟨c, t, -, -, h⟩
    cases h
  · have hk := Shape.item?_kind (hi t.line)
    rw [hp, hn.fits_word_iff]
    by_cases hw : k = .word
    · rw [if_pos hw] at hk
      exact ⟨fun _ => hk, fun h => absurd hw h⟩
    · rw [if_neg hw] at hk
      exact ⟨fun h => absurd h hw, fun _ => hk⟩

/-- The table and the kinds of tokens agree. -/
theorem ofSpelling?_eq_some_iff {source : String} (ht : t ∈ (lex source (#[] : Array Diagnostic)).1) (k : Kind) :
    Kind.ofSpelling? t.lexeme = some k ↔ t.kind = k ∧ k.isKeyword = true := by
  obtain ⟨hw, hn⟩ := kind_of_mem ht
  constructor
  · intro h
    obtain ⟨hf, hk⟩ := Kind.of_ofSpelling? h
    rw [hw hf, h]
    exact ⟨rfl, hk⟩
  · rintro ⟨rfl, hk⟩
    by_cases hf : Shape.word.Fits t.lexeme.toList
    · cases hs : Kind.ofSpelling? t.lexeme with
      | none =>
        rw [hw hf, hs] at hk
        cases hk
      | some k => rw [hw hf, hs]; rfl
    · rw [(hn hf).2] at hk
      cases hk

theorem ofSpelling?_eq_none_iff {source : String} (ht : t ∈ (lex source (#[] : Array Diagnostic)).1) :
    Kind.ofSpelling? t.lexeme = none ↔ t.kind.isKeyword = false := by
  have h := ofSpelling?_eq_some_iff ht t.kind
  rw [Bool.eq_false_iff, Option.eq_none_iff_forall_ne_some]
  constructor
  · intro hn hk
    exact hn t.kind (h.mpr ⟨rfl, hk⟩)
  · intro hk k hs
    obtain ⟨rfl, hk'⟩ := (ofSpelling?_eq_some_iff ht k).mp hs
    exact hk hk'

theorem kind_eq_identifier_iff {source : String} (ht : t ∈ (lex source (#[] : Array Diagnostic)).1) :
    t.kind = .identifier ↔ Shape.word.Fits t.lexeme.toList ∧ Kind.ofSpelling? t.lexeme = none := by
  obtain ⟨hw, hn⟩ := kind_of_mem ht
  constructor
  · intro hk
    refine ⟨?_, (ofSpelling?_eq_none_iff ht).mpr (by rw [hk]; rfl)⟩
    by_contra hf
    exact (hn hf).1 hk
  · rintro ⟨hf, hs⟩
    rw [hw hf, hs]
    rfl

/-! ## Neighbours -/

/-- Of the characters of words only the end of a number can stand before a word. -/
theorem Next.before_word {c d : Char} (h : Next k p (c :: r)) (hc : startsWord c = true)
    (hd : p.getLast? = some d) (hw : continuesWord d = true) : k = .numeral ∧ d.isDigit = true := by
  have ha := h.allows d (List.mem_of_getLast? hd)
  have hp : d.isWhitespace = false := not_isWhitespace hw rfl
  cases k with
  | blank => exact absurd ha (by simp [Shape.allows, hp])
  | comment =>
    cases h with
    | comment _ hr =>
      have hn : c = '\n' := by simpa using hr c rfl
      rw [hn] at hc
      cases hc
  | mark m =>
    obtain ⟨n, hn⟩ := Option.isSome_iff_exists.mp ha
    obtain ⟨-, -, h₁, h₂⟩ := single?_plain hn
    simp [continuesWord, h₁, h₂] at hw
  | string =>
    obtain rfl : '"' = d := Option.some.inj (h.getLast?_string.symm.trans hd)
    cases hw
  | numeral =>
    rcases Bool.or_eq_true_iff.mp ha with ha | ha
    · exact ⟨rfl, ha⟩
    · rw [of_decide_eq_true ha] at hw
      cases hw
  | word =>
    cases h with
    | word _ _ hr =>
      have := hr c rfl
      simp [continuesWord, hc] at this
  | openString => cases h.rest_eq_nil
  | stray =>
    obtain ⟨-, -, -, h₁, h₂, -⟩ := isStray_plain ha
    simp [continuesWord, h₁, h₂] at hw

end

section
variable {cs r b p : List Char} {ps₁ ps₂ : List (Shape × List Char)}

theorem Front.before_word {c : Char} (h : Front (c :: r) b ps₁) (hc : startsWord c = true) {d : Char}
    (hd : b.getLast? = some d) (hw : continuesWord d = true) :
    d.isDigit = true ∧ ∃ ps q, ps₁ = ps ++ [(.numeral, q)] ∧ q <:+ b := by
  rcases List.eq_nil_or_concat ps₁ with rfl | ⟨ps, ⟨k, q⟩, rfl⟩
  · rw [h.eq_nil] at hd
    cases hd
  · rw [List.concat_eq_append] at h ⊢
    have hq := h.getLast?_eq List.getLast?_concat
    obtain ⟨b', e, rfl, -, he⟩ := h.of_append
    cases he with
    | cons hn hf =>
      obtain rfl := hf.eq_nil
      obtain ⟨rfl, hdd⟩ := Next.before_word (c := c) hn hc (hq.trans hd) hw
      exact ⟨hdd, ps, q, rfl, b', by simp⟩

/-- The neighbours of a word among the pieces of a text. -/
theorem Cut.word_apart (h : Cut cs (ps₁ ++ (.word, p) :: ps₂)) : ∃ b r, cs = b ++ p ++ r ∧ Cut r ps₂ ∧
    Stops continuesWord r ∧ ∀ d, b.getLast? = some d → continuesWord d = true →
      d.isDigit = true ∧ ∃ ps q, ps₁ = ps ++ [(.numeral, q)] ∧ q <:+ b := by
  obtain ⟨b, e, rfl, hb, he⟩ := h.front.of_append
  cases he with
  | @cons _ _ r _ hn hr =>
    have hc : Cut (r ++ []) (ps₂ ++ []) := hr.cut .nil
    simp only [List.append_nil] at hb hn hc
    cases hn with
    | @word c t _ hw _ hs =>
      refine ⟨b, r, (List.append_assoc ..).symm, hc, hs, ?_⟩
      intro d hd hdw
      exact Front.before_word hb hw hd hdw

end

namespace Lexer
variable {l l' : Lexer} {b a cs : List Char} {ps : List (Shape × List Char)}

theorem nth_congr (h : l.next = l'.next) (n : Nat) : l.nth n = l'.nth n := by
  cases n <;> simp only [nth, h]

/-- The piece of the `n`-th item. Its position among the items tells how many items the pieces before it give. -/
theorem nth_piece (hs : l.Splits b a cs) (hc : Cut cs ps) {n : Nat} {i : Item} (h : (l.nth n).1 = some i)
    (hk : i.hasKind .endOfFile = false) : ∃ ps₁ k p ps₂ m, ps = ps₁ ++ (k, p) :: ps₂ ∧
      (itemsOf l.cursor.place.line ps₁).length = n ∧ k.item? m p = some i ∧ Cut (l.nth n).2.cursor.rest ps₂ := by
  induction hc generalizing l b a n with
  | nil =>
    rw [(l.nth_items n).1] at h
    cases he : l.ended with
    | true => simp [items_of_ended hs.rest he] at h
    | false =>
      rw [items_of_end hs.rest he] at h
      obtain rfl := List.mem_singleton.mp (List.mem_of_getElem? h)
      cases hk
  | @cons k p r ps hn hr ih =>
    obtain ⟨c, t, hc, hi, h₁⟩ := round_of_next hs hn
    have hx := next_cons (hs.rest.trans hc)
    have hl := hs.line_add h₁
    rw [hi] at hx
    cases hj : k.item? l.cursor.place.line p with
    | none =>
      rw [hj] at hx
      rw [nth_congr hx] at h ⊢
      obtain ⟨ps₁, k', p', ps₂, m, rfl, hn', hi', hr'⟩ := ih h₁ h
      refine ⟨(k, p) :: ps₁, k', p', ps₂, m, rfl, ?_, hi', hr'⟩
      rw [itemsOf, hj, ← hl]
      simpa using hn'
    | some j =>
      rw [hj] at hx
      cases n with
      | zero =>
        simp only [nth, hx] at h ⊢
        obtain rfl := Option.some.inj h
        exact ⟨[], k, p, ps, _, rfl, rfl, hj, h₁.rest.symm ▸ hr⟩
      | succ n =>
        simp only [nth, hx] at h ⊢
        obtain ⟨ps₁, k', p', ps₂, m, rfl, hn', hi', hr'⟩ := ih h₁ h
        refine ⟨(k, p) :: ps₁, k', p', ps₂, m, rfl, ?_, hi', hr'⟩
        rw [itemsOf, hj, ← hl]
        simpa using hn'

/-- A numeral gives a number, behind the items of the pieces before it. -/
theorem item_of_numeral {s : String} {q : List Char} {ps₁ ps₂ : List (Shape × List Char)}
    (hc : Cut s.toList (ps₁ ++ (.numeral, q) :: ps₂)) : ∃ u,
      (ofString s).items[(itemsOf 1 ps₁).length]? = some (.token u) ∧ u.kind = .number ∧ u.lexeme.toList = q ∧
      (itemsOf 1 (ps₁ ++ [(.numeral, q)])).length = (itemsOf 1 ps₁).length + 1 := by
  obtain ⟨b, _, -, hb, -⟩ := hc.front.of_append
  refine ⟨⟨.number, .ofList q, some (.number (Numeral.ofDigits q).value), 1 + b.count '\n'⟩, ?_, rfl,
    String.toList_ofList, ?_⟩
  · rw [items_ofString hc, hb.itemsFrom_append, itemsFrom_cons]
    simp [Shape.item?]
  · rw [hb.itemsOf_append, List.length_append]
    rfl

end Lexer

section
variable {source : String} {n : Nat} {t : Token}

theorem mem_lex_of_getElem? (h : (Lexer.ofString source).items[n]? = some (.token t)) :
    t ∈ (lex source (#[] : Array Diagnostic)).1 := by
  rw [lex_eq]
  exact List.mem_filterMap.mpr ⟨_, List.mem_of_getElem? h, rfl⟩

theorem word_neighbours (h : (Lexer.ofString source).items[n]? = some (.token t))
    (hk : t.kind = .identifier ∨ t.kind.isKeyword = true) : ∃ b,
      source.toList = b ++ t.lexeme.toList ++ ((Lexer.ofString source).nth n).2.cursor.rest ∧
      Stops continuesWord ((Lexer.ofString source).nth n).2.cursor.rest ∧
      ∀ c, b.getLast? = some c → continuesWord c = true → c.isDigit = true ∧
        ∃ m u, n = m + 1 ∧ (Lexer.ofString source).items[m]? = some (.token u) ∧ u.kind = .number ∧
          u.lexeme.toList <:+ b := by
  have hn := ((Lexer.ofString source).nth_items n).1.trans h
  have he : (Item.token t).hasKind .endOfFile = false := by
    apply decide_eq_false
    intro he
    rw [he] at hk
    rcases hk with hk | hk <;> cases hk
  obtain ⟨ps, hc⟩ := exists_cut source.toList
  obtain ⟨ps₁, k, p, ps₂, m, rfl, hl, hi, hr⟩ := Lexer.nth_piece (Lexer.splits_ofString source) hc hn he
  obtain rfl : k = .word := by
    have hw := Shape.item?_kind hi
    by_contra hne
    rw [if_neg hne] at hw
    rcases hk with hk | hk
    · exact hw.1 hk
    · rw [hw.2] at hk
      cases hk
  obtain ⟨b, r, hs, hr', hstop, hb⟩ := hc.word_apart
  obtain rfl : r = ((Lexer.ofString source).nth n).2.cursor.rest := hr'.flatten.symm.trans hr.flatten
  rw [(Shape.item?_token hi).1]
  refine ⟨b, hs, hstop, ?_⟩
  intro c hbc hcw
  obtain ⟨hd, qs, q, rfl, hq⟩ := hb c hbc hcw
  obtain ⟨u, hu, hk, hl', hn⟩ := Lexer.item_of_numeral (by simpa using hc)
  exact ⟨hd, (itemsOf 1 qs).length, u, hl.symm.trans hn, hu, hk, by rwa [hl']⟩

end

/-- **Words.** A kind is that of a reserved word exactly when the lexeme spells it, and a name is any other word.
A word is as long as its text allows: nothing that could go on in it stands on its right, and on its left only
the end of a number. -/
theorem items_words (source : String) (n : Nat) {t : Token}
    (h : (Lexer.ofString source).items[n]? = some (.token t)) :
    (∀ k, Kind.ofSpelling? t.lexeme = some k ↔ t.kind = k ∧ k.isKeyword = true) ∧
    (Kind.ofSpelling? t.lexeme = none ↔ t.kind.isKeyword = false) ∧
    (t.kind = .identifier ↔ Shape.word.Fits t.lexeme.toList ∧ Kind.ofSpelling? t.lexeme = none) ∧
    (t.kind = .identifier ∨ t.kind.isKeyword = true → ∃ b,
      source.toList = b ++ t.lexeme.toList ++ ((Lexer.ofString source).nth n).2.cursor.rest ∧
      (∀ c, ((Lexer.ofString source).nth n).2.cursor.rest.head? = some c → ¬ (c.isAlphanum = true ∨ c = '_')) ∧
      ∀ c, b.getLast? = some c → ¬ (c.isAlpha = true ∨ c = '_') ∧
        (c.isDigit = true → ∃ m u, n = m + 1 ∧ (Lexer.ofString source).items[m]? = some (.token u) ∧
          u.kind = .number ∧ u.lexeme.toList <:+ b)) := by
  have ht := mem_lex_of_getElem? h
  refine ⟨ofSpelling?_eq_some_iff ht, ofSpelling?_eq_none_iff ht, kind_eq_identifier_iff ht, ?_⟩
  intro hk
  obtain ⟨b, hs, hr, hb⟩ := word_neighbours h hk
  refine ⟨b, hs, ?_, ?_⟩
  · intro c hc hw
    have hw := continuesWord_iff.mpr hw
    rw [hr c hc] at hw
    cases hw
  · intro c hc
    constructor
    · intro hw
      have hw := startsWord_iff.mpr hw
      rw [isDigit_not_startsWord (hb c hc (by simp [continuesWord, hw])).1] at hw
      cases hw
    · intro hd
      exact (hb c hc (by simp [continuesWord, hd])).2

/-- A reserved word between a number and a mark. -/
theorem items_words_or_behind_number :
    (Lexer.ofString "// x\n1or+_and").items[1]? = some (.token ⟨.keyword .kwOr, "or", none, 2⟩) ∧
    Kind.ofSpelling? "or" = some (.keyword .kwOr) ∧
    ∃ b, "// x\n1or+_and".toList = b ++ ['o', 'r'] ++ ['+', '_', 'a', 'n', 'd'] ∧
      ∀ c, b.getLast? = some c → ¬ (c.isAlpha = true ∨ c = '_') := by
  have h : (Lexer.ofString "// x\n1or+_and").items[1]? = some (.token ⟨.keyword .kwOr, "or", none, 2⟩) := by
    decide +kernel
  have hr : ((Lexer.ofString "// x\n1or+_and").nth 1).2.cursor.rest = ['+', '_', 'a', 'n', 'd'] := by
    decide +kernel
  obtain ⟨hk, -, -, hw⟩ := items_words "// x\n1or+_and" 1 h
  obtain ⟨b, hs, -, hb⟩ := hw (.inr rfl)
  rw [hr] at hs
  exact ⟨h, (hk _).mpr ⟨rfl, rfl⟩, b, hs, fun c hc => (hb c hc).1⟩

end LoxLex
