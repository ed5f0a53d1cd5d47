import LoxLex.Proofs.Split

/-!
# Pieces of a text

A piece has a shape. `Next k p r` says where a piece ends by looking at its own characters and at what
follows it: with `p ++ r` left to read, the next piece is `p`, of shape `k`. Every text that is not empty
has a next piece.
-/

namespace LoxLex

def blanks : List Char := [' ', '\r', '\t', '\n']

inductive Shape
  | blank
  | comment
  | mark (m : Mark)
  | string
  | numeral
  | word
  | openString
  /-- A character that begins no other piece. -/
  | stray (c : Char)
deriving DecidableEq

def IsDigits (ds : List Char) : Prop := ds ≠ [] ∧ ∀ d ∈ ds, d.isDigit = true

theorem isDigits_append {ds es : List Char} (hd : IsDigits ds) (he : ∀ e ∈ es, e.isDigit = true) :
    IsDigits (ds ++ es) :=
  ⟨by simp [hd.1], fun e h => (List.mem_append.mp h).elim (hd.2 e) (he e)⟩

/-- Before `r`, neither a longer mark nor a comment begins with `m`. -/
def Mark.Ends (m : Mark) (r : List Char) : Prop :=
  ∀ c, r.head? = some c → m.spelling.toList ++ [c] ≠ ['/', '/'] ∧
    ∀ n : Mark, n.spelling.toList ≠ m.spelling.toList ++ [c]

/-- Before `r`, a numeral without a point does not go on with one. -/
def NoPoint (r : List Char) : Prop := r.head? = some '.' → Stops Char.isDigit r.tail

/-- Whether a character is no beginning of a piece that has one of the other shapes. -/
def isStray (c : Char) : Bool :=
  !(c.isWhitespace || c = '"' || c.isDigit || startsWord c || (Mark.single? c).isSome)

inductive Next : Shape → List Char → List Char → Prop
  | blank {c r} (hc : c.isWhitespace = true) : Next .blank [c] r
  | comment {t r} (ht : '\n' ∉ t) (hr : Stops (· ≠ '\n') r) : Next .comment ('/' :: '/' :: t) r
  | mark {m r} (hr : m.Ends r) : Next (.mark m) m.spelling.toList r
  | string {t r} (ht : '"' ∉ t) : Next .string ('"' :: (t ++ ['"'])) r
  | whole {ds r} (hd : IsDigits ds) (hr : Stops Char.isDigit r) (hp : NoPoint r) : Next .numeral ds r
  | pointed {ds es r} (hd : IsDigits ds) (he : IsDigits es) (hr : Stops Char.isDigit r) :
    Next .numeral (ds ++ '.' :: es) r
  | word {c t r} (hc : startsWord c = true) (ht : ∀ d ∈ t, continuesWord d = true)
    (hr : Stops continuesWord r) : Next .word (c :: t) r
  | openString {t} (ht : '"' ∉ t) : Next .openString ('"' :: t) []
  | stray {c r} (hc : isStray c = true) : Next (.stray c) [c] r

/-! ## What a piece begins with -/

section
variable {c : Char}

theorem ne_of_holds {f : Char → Bool} {d : Char} (h : f c = true) (hd : f d = false) : c ≠ d := by
  rintro rfl
  rw [hd] at h
  cases h

theorem isWhitespace_iff : c.isWhitespace = true ↔ c ∈ blanks := by
  simp only [blanks, Char.isWhitespace, Bool.or_eq_true, decide_eq_true_eq, List.mem_cons, List.not_mem_nil,
    or_false]
  grind

theorem not_isWhitespace {f : Char → Bool} (h : f c = true) (hf : blanks.any f = false) :
    c.isWhitespace = false :=
  Bool.eq_false_iff.mpr fun hc => List.any_eq_false.mp hf c (isWhitespace_iff.mp hc) h

theorem startsWord_iff : startsWord c = true ↔ c.isAlpha = true ∨ c = '_' := by simp [startsWord]

theorem continuesWord_iff : continuesWord c = true ↔ c.isAlphanum = true ∨ c = '_' := by
  simp only [continuesWord, startsWord, Char.isAlphanum, Bool.or_eq_true, decide_eq_true_eq]
  grind

theorem isDigit_not_startsWord (h : c.isDigit = true) : startsWord c = false := by
  have h₉ : c.val ≤ '9'.val := of_decide_eq_true (Bool.and_eq_true_iff.mp h).2
  refine Bool.eq_false_iff.mpr fun hl => ?_
  rcases startsWord_iff.mp hl with hl | rfl
  · -- both alphabets lie behind the digits
    rcases Bool.or_eq_true_iff.mp hl with hu | hl
    · have hu : 'A'.val ≤ c.val := (of_decide_eq_true hu).1
      exact absurd (UInt32.le_trans hu h₉) (by decide)
    · have hl : 'a'.val ≤ c.val := of_decide_eq_true (Bool.and_eq_true_iff.mp hl).1
      exact absurd (UInt32.le_trans hl h₉) (by decide)
  · cases h

theorem isDigit_plain (h : c.isDigit = true) : c.isWhitespace = false ∧ c ≠ '/' ∧ c ≠ '"' :=
  ⟨not_isWhitespace h rfl, ne_of_holds h rfl, ne_of_holds h rfl⟩

theorem startsWord_plain (h : startsWord c = true) :
    c.isWhitespace = false ∧ c ≠ '/' ∧ c ≠ '"' ∧ c.isDigit = false := by
  refine ⟨not_isWhitespace h rfl, ne_of_holds h rfl, ne_of_holds h rfl, ?_⟩
  refine Bool.eq_false_iff.mpr fun hd => ?_
  rw [isDigit_not_startsWord hd] at h
  cases h

theorem single?_plain {m : Mark} (h : Mark.single? c = some m) :
    c.isWhitespace = false ∧ c ≠ '"' ∧ c.isDigit = false ∧ startsWord c = false := by
  unfold Mark.single? at h
  split at h <;> cases h <;> decide

theorem single?_of_withEqual? {m : Mark} (h : Mark.withEqual? c = some m) :
    ∃ n, Mark.single? c = some n := by
  unfold Mark.withEqual? at h
  split at h <;> cases h <;> exact ⟨_, rfl⟩

theorem isStray_plain (h : isStray c = true) : c.isWhitespace = false ∧ c ≠ '/' ∧ c ≠ '"' ∧
    c.isDigit = false ∧ startsWord c = false ∧ Mark.single? c = none ∧ Mark.withEqual? c = none := by
  have hs : c ≠ '/' := ne_of_holds h rfl
  simp only [isStray, Bool.not_eq_true', Bool.or_eq_false_iff, decide_eq_false_iff_not,
    Option.isSome_eq_false_iff, Option.isNone_iff_eq_none] at h
  obtain ⟨⟨⟨⟨hw, hq⟩, hd⟩, hl⟩, hm⟩ := h
  refine ⟨hw, hs, hq, hd, hl, hm, ?_⟩
  cases he : Mark.withEqual? c with
  | none => rfl
  | some m =>
    obtain ⟨n, hn⟩ := single?_of_withEqual? he
    rw [hm] at hn
    cases hn

end

/-! ## Every text has a next piece -/

theorem Next.ne_nil {k : Shape} {p r : List Char} (h : Next k p r) : p ≠ [] := by
  cases h with
  | mark =>
    rename_i m _
    obtain ⟨c, hc, _⟩ | ⟨c, hc, _⟩ := m.spelling_shape <;> simp [hc]
  | whole hd => exact hd.1
  | pointed => simp
  | _ => exact List.cons_ne_nil _ _

/-- The characters that a piece can have. Between quotes they are any. -/
def Shape.allows (c : Char) : Shape → Bool
  | .blank => c.isWhitespace
  | .comment => c ≠ '\n'
  | .mark _ => (Mark.single? c).isSome
  | .numeral => c.isDigit || c = '.'
  | .word => continuesWord c
  | .stray _ => isStray c
  | .string | .openString => true

theorem Next.allows {k : Shape} {p r : List Char} (h : Next k p r) : ∀ c ∈ p, k.allows c = true := by
  intro c hm
  cases h with
  | blank hc | stray hc =>
    rw [List.mem_singleton.mp hm]
    exact hc
  | comment ht =>
    apply decide_eq_true
    rintro rfl
    simp [ht] at hm
  | @mark m =>
    have ha : m.spelling.toList.all (Shape.mark m).allows = true := by cases m <;> decide
    exact List.all_eq_true.mp ha c hm
  | whole hd => simp [Shape.allows, hd.2 c hm]
  | pointed hd he =>
    rcases List.mem_append.mp hm with hm | hm
    · simp [Shape.allows, hd.2 c hm]
    · rcases List.mem_cons.mp hm with rfl | hm
      · rfl
      · simp [Shape.allows, he.2 c hm]
  | word hc ht =>
    rcases List.mem_cons.mp hm with rfl | hm
    · simp [Shape.allows, continuesWord, hc]
    · exact ht c hm
  | string | openString => rfl

theorem Next.getLast?_string {p r : List Char} (h : Next .string p r) : p.getLast? = some '"' := by
  cases h with
  | string => simp [List.getLast?_cons]

theorem count_comment {t : List Char} (ht : '\n' ∉ t) : ('/' :: '/' :: t).count '\n' = 0 :=
  List.count_eq_zero.mpr (by simpa using ht)

section
variable (c : Char) (r : List Char)

theorem next_string : ∃ k p r', '"' :: r = p ++ r' ∧ Next k p r' := by
  obtain ⟨t, r', rfl, ht, hr⟩ := exists_run (· ≠ '"') r
  have ht' : '"' ∉ t := fun h => by simpa using ht _ h
  cases r' with
  | nil => exact ⟨.openString, '"' :: t, [], by simp, .openString ht'⟩
  | cons d r' =>
    obtain rfl : d = '"' := by simpa using hr d rfl
    exact ⟨.string, '"' :: (t ++ ['"']), r', by simp, .string ht'⟩

theorem next_numeral (hc : c.isDigit = true) : ∃ p r', c :: r = p ++ r' ∧ Next .numeral p r' := by
  obtain ⟨t, r₁, rfl, ht, hr₁⟩ := exists_run Char.isDigit r
  have hd : IsDigits (c :: t) := ⟨List.cons_ne_nil _ _, List.forall_mem_cons.mpr ⟨hc, ht⟩⟩
  by_cases hp : NoPoint r₁
  · exact ⟨c :: t, r₁, rfl, .whole hd hr₁ hp⟩
  · -- the point is taken because a digit follows it
    obtain ⟨hp, hn⟩ := Classical.not_imp.mp hp
    obtain ⟨r₂, rfl⟩ : ∃ r₂, r₁ = '.' :: r₂ := by
      cases r₁ with
      | nil => cases hp
      | cons d r₂ => exact ⟨r₂, by rw [Option.some.inj hp]⟩
    obtain ⟨es, r₃, rfl, he, hr₃⟩ := exists_run Char.isDigit r₂
    have hne : es ≠ [] := by
      rintro rfl
      exact hn hr₃
    exact ⟨(c :: t) ++ '.' :: es, r₃, by simp, .pointed hd ⟨hne, he⟩ hr₃⟩

theorem next_mark {m : Mark} (hm : Mark.single? c = some m) (hc : ¬(c = '/' ∧ r.head? = some '/')) :
    ∃ k p r', c :: r = p ++ r' ∧ Next k p r' := by
  by_cases h : ∃ n r', Mark.withEqual? c = some n ∧ r = '=' :: r'
  · obtain ⟨n, r', hn, rfl⟩ := h
    have hs : n.spelling.toList = [c, '='] := by rw [Mark.spelling_of_withEqual? hn, String.toList_ofList]
    refine ⟨.mark n, n.spelling.toList, r', by rw [hs]; rfl, .mark ?_⟩
    intro d _
    refine ⟨by simp [hs], fun n' hn' => ?_⟩
    have := n'.length_spelling_le
    simp [hn', hs] at this
  · have hs : m.spelling.toList = [c] := by rw [Mark.spelling_of_single? hm]; simp
    refine ⟨.mark m, m.spelling.toList, r, by rw [hs]; rfl, .mark ?_⟩
    intro d hd
    rw [hs]
    refine ⟨fun e => ?_, fun n hn => ?_⟩
    · simp only [List.cons_append, List.nil_append, List.cons.injEq, and_true] at e
      exact hc ⟨e.1, e.2 ▸ hd⟩
    · obtain ⟨rfl, he⟩ := Mark.withEqual?_of_spelling hn
      obtain ⟨r', rfl⟩ := List.head?_eq_some_iff.mp hd
      exact h ⟨n, r', he, rfl⟩

theorem exists_next : ∃ k p r', c :: r = p ++ r' ∧ Next k p r' := by
  by_cases hw : c.isWhitespace = true
  · exact ⟨.blank, [c], r, rfl, .blank hw⟩
  by_cases hc : c = '/' ∧ r.head? = some '/'
  · obtain ⟨rfl, hr⟩ := hc
    obtain ⟨r, rfl⟩ := List.head?_eq_some_iff.mp hr
    obtain ⟨t, r', rfl, ht, hr⟩ := exists_run (· ≠ '\n') r
    exact ⟨.comment, '/' :: '/' :: t, r', rfl, .comment (fun h => by simpa using ht _ h) hr⟩
  by_cases hq : c = '"'
  · subst hq
    exact next_string r
  by_cases hd : c.isDigit = true
  · obtain ⟨p, r', hp⟩ := next_numeral c r hd
    exact ⟨.numeral, p, r', hp⟩
  by_cases hl : startsWord c = true
  · obtain ⟨t, r', rfl, ht, hr⟩ := exists_run continuesWord r
    exact ⟨.word, c :: t, r', rfl, .word hl ht hr⟩
  cases hm : Mark.single? c with
  | some m => exact next_mark c r hm hc
  | none => exact ⟨.stray c, [c], r, rfl, .stray (by simp [isStray, hw, hq, hd, hl, hm])⟩

end

/-! ## The text of a piece tells its shape -/

def Shape.ofText : List Char → Shape
  | [] => .blank
  | '/' :: '/' :: _ => .comment
  | c :: t =>
    if c.isWhitespace then .blank
    else if c = '"' then if '"' ∈ t then .string else .openString
    else if c.isDigit then .numeral
    else if startsWord c then .word
    else (Mark.all.find? fun m => m.spelling.toList = c :: t).elim (.stray c) .mark

theorem Shape.ofText_cons {c : Char} {t : List Char} (hc : c ≠ '/') :
    ofText (c :: t) =
      if c.isWhitespace then .blank
      else if c = '"' then if '"' ∈ t then .string else .openString
      else if c.isDigit then .numeral
      else if startsWord c then .word
      else (Mark.all.find? fun m => m.spelling.toList = c :: t).elim (.stray c) .mark := by
  cases t <;> simp [ofText, hc]

theorem Shape.ofText_digits {c : Char} (t : List Char) (hc : c.isDigit = true) : ofText (c :: t) = .numeral := by
  obtain ⟨hw, hs, hq⟩ := isDigit_plain hc
  simp [ofText_cons hs, hw, hq, hc]

theorem Next.shape_eq {k : Shape} {p r : List Char} (h : Next k p r) : Shape.ofText p = k := by
  cases h with
  | @blank c _ hc =>
    have hs : c ≠ '/' := ne_of_holds hc rfl
    simp [Shape.ofText_cons hs, hc]
  | comment => rfl
  | @mark m => cases m <;> decide
  | string => simp [Shape.ofText_cons]
  | @whole ds _ hd =>
    obtain ⟨c, t, rfl⟩ := List.exists_cons_of_ne_nil hd.1
    exact Shape.ofText_digits t (hd.2 c (List.mem_cons_self ..))
  | @pointed ds es _ hd =>
    obtain ⟨c, t, rfl⟩ := List.exists_cons_of_ne_nil hd.1
    exact Shape.ofText_digits _ (hd.2 c (List.mem_cons_self ..))
  | word hc =>
    obtain ⟨hw, hs, hq, hd⟩ := startsWord_plain hc
    simp [Shape.ofText_cons hs, hw, hq, hd, hc]
  | openString ht => simp [Shape.ofText_cons, ht]
  | @stray c _ hc =>
    obtain ⟨hw, hs, hq, hd, hl, hm, _⟩ := isStray_plain hc
    have hf : (Mark.all.find? fun m => m.spelling.toList = [c]) = none := by
      refine List.find?_eq_none.mpr fun m _ h => ?_
      rw [Mark.single?_of_spelling (of_decide_eq_true h)] at hm
      cases hm
    simp [Shape.ofText_cons hs, hw, hq, hd, hl, hf]

/-! ## What a piece gives -/

def Numeral.ofDigits (p : List Char) : Numeral :=
  ⟨shiftIn 0 (p.filter Char.isDigit), (p.dropWhile Char.isDigit).length - 1⟩

/-- The item of a piece `p` that begins on a line. Only an open string is dated by its end. -/
def Shape.item? (line : Nat) (p : List Char) : Shape → Option Item
  | .blank | .comment => none
  | .mark m => some (.token ⟨.mark m, .ofList p, none, line⟩)
  | .string => some (.token ⟨.string, .ofList p, some (.string (.ofList p.tail.dropLast)), line⟩)
  | .numeral => some (.token ⟨.number, .ofList p, some (.number (Numeral.ofDigits p).value), line⟩)
  | .word => some (.token ⟨(Kind.ofSpelling? (.ofList p)).getD .identifier, .ofList p, none, line⟩)
  | .openString => some (.diagnostic (.unterminatedString (line + p.count '\n')))
  | .stray c => some (.diagnostic (.unexpectedCharacter line c))

/-- A token is written as its piece, and only its line depends on where the piece stands. -/
theorem Shape.item?_token {k : Shape} {line : Nat} {p : List Char} {t : Token}
    (h : k.item? line p = some (.token t)) :
    t.lexeme.toList = p ∧ t.line = line ∧ t.kind ≠ .endOfFile ∧
      ∀ n, k.item? n p = some (.token { t with line := n }) := by
  cases k with
  | word =>
    obtain rfl := Item.token.inj (Option.some.inj h)
    refine ⟨String.toList_ofList, rfl, ?_, fun _ => rfl⟩
    simp only [Kind.ofSpelling?]
    cases Keyword.ofSpelling? (.ofList p) <;> exact nofun
  | blank | comment | openString | stray => cases h
  | mark | string | numeral =>
    obtain rfl := Item.token.inj (Option.some.inj h)
    exact ⟨String.toList_ofList, rfl, nofun, fun _ => rfl⟩

end LoxLex
