import LoxLex.Proofs.Relex
import LoxLex.Token.Listing
import Mathlib.Data.List.DropRight
import Mathlib.Data.List.Forall2

/-!
# Listings

Every token has one line in a listing, the same in every listing. Its line number, its kind and its lexeme
stand there in full and in their columns: breaks are escaped before blanks are trimmed, and no lexeme ends in
a blank, so nothing but filling and parts of the value can be trimmed.
-/

namespace LoxLex

/-! ## Escaped breaks -/

section
variable {c : Char} {cs ds : List Char}

theorem escapeBreaks_append (cs ds : List Char) :
    escapeBreaks (cs ++ ds) = escapeBreaks cs ++ escapeBreaks ds := List.flatMap_append

theorem escapeBreaks_cons (c : Char) (cs : List Char) :
    escapeBreaks (c :: cs) = escapeBreaks [c] ++ escapeBreaks cs := escapeBreaks_append [c] cs

theorem escapeBreaks_eq_self (hr : '\r' ∉ cs) (hn : '\n' ∉ cs) : escapeBreaks cs = cs := by
  induction cs with
  | nil => rfl
  | cons c cs ih =>
    simp only [List.mem_cons, not_or] at hr hn
    rw [escapeBreaks_cons, ih hr.2 hn.2]
    simp [escapeBreaks, Ne.symm hr.1, Ne.symm hn.1]

theorem escapeBreaks_of_visible (h : ∀ c ∈ cs, isBlank c = false) : escapeBreaks cs = cs := by
  have hb : ∀ c, isBlank c = true → c ∉ cs := fun c hc hm => by rw [h c hm] at hc; cases hc
  exact escapeBreaks_eq_self (hb '\r' rfl) (hb '\n' rfl)

theorem mem_escapeBreaks (h : c ∈ escapeBreaks cs) : c ∈ cs ∧ c ≠ '\r' ∧ c ≠ '\n' ∨ c ∈ ['\\', 'r', 'n'] := by
  obtain ⟨d, hd, hc⟩ := List.mem_flatMap.mp h
  split at hc
  · obtain rfl | rfl : c = '\\' ∨ c = 'r' := List.mem_pair.mp hc
    · exact .inr (by decide)
    · exact .inr (by decide)
  · split at hc
    · obtain rfl | rfl : c = '\\' ∨ c = 'n' := List.mem_pair.mp hc
      · exact .inr (by decide)
      · exact .inr (by decide)
    · obtain rfl := List.mem_singleton.mp hc
      exact .inl ⟨hd, ‹_›, ‹_›⟩

theorem not_mem_escapeBreaks (cs : List Char) : '\r' ∉ escapeBreaks cs ∧ '\n' ∉ escapeBreaks cs := by
  constructor <;> intro h <;> simpa using mem_escapeBreaks h

/-! ## Trimmed blanks -/

/-- Nothing at the end of the text can be trimmed. -/
def EndsVisibly (cs : List Char) : Prop := ∃ ds c, cs = ds ++ [c] ∧ isBlank c = false

theorem endsVisibly_of_forall (hn : cs ≠ []) (hb : ∀ c ∈ cs, isBlank c = false) : EndsVisibly cs := by
  obtain ⟨ds, c, rfl⟩ := List.eq_nil_or_concat cs |>.resolve_left hn
  exact ⟨ds, c, by simp, hb c (by simp)⟩

theorem EndsVisibly.append (h : EndsVisibly ds) (cs : List Char) : EndsVisibly (cs ++ ds) := by
  obtain ⟨es, c, rfl, hc⟩ := h
  exact ⟨cs ++ es, c, by simp, hc⟩

theorem EndsVisibly.trimEnd_append (h : EndsVisibly cs) (ds : List Char) :
    trimEnd (cs ++ ds) = cs ++ trimEnd ds := by
  obtain ⟨es, c, rfl, hc⟩ := h
  unfold trimEnd
  rw [List.reverse_append, List.dropWhile_append]
  split
  · rename_i he
    rw [List.isEmpty_iff.mp he]
    simp [hc]
  · simp

theorem trimEnd_eq_nil (h : ∀ c ∈ cs, isBlank c = true) : trimEnd cs = [] :=
  List.rdropWhile_eq_nil_iff.mpr h

/-- What is trimmed is blank, and what is left does not end in a blank. -/
theorem exists_trimmed (cs : List Char) : ∃ cut, cs = trimEnd cs ++ cut ∧ ∀ c ∈ cut, isBlank c = true :=
  ⟨cs.rtakeWhile isBlank, List.rdropWhile_append_rtakeWhile.symm, fun _ => List.mem_rtakeWhile_imp⟩

theorem endsVisibly_trimEnd (hn : trimEnd cs ≠ []) : EndsVisibly (trimEnd cs) :=
  ⟨_, _, (List.dropLast_append_getLast hn).symm,
    Bool.eq_false_iff.mpr (List.rdropWhile_last_not isBlank cs hn)⟩

end

/-! ## Visible characters -/

section
variable {a b c : Char}

theorem isBlank_of_between (ha : a.val ≤ c.val) (hb : c.val ≤ b.val) (h : 32 < a.toNat ∧ b.toNat < 133) :
    isBlank c = false := by
  have h₁ : a.toNat ≤ c.toNat := UInt32.le_iff_toNat_le.mp ha
  have h₂ : c.toNat ≤ b.toNat := UInt32.le_iff_toNat_le.mp hb
  simp [isBlank, blankRanges]
  omega

theorem isBlank_of_isDigit (h : c.isDigit = true) : isBlank c = false := by
  obtain ⟨h₁, h₂⟩ := Bool.and_eq_true_iff.mp h
  exact isBlank_of_between (of_decide_eq_true h₁) (of_decide_eq_true h₂) (by decide)

theorem isBlank_of_startsWord (h : startsWord c = true) : isBlank c = false := by
  rcases startsWord_iff.mp h with h | rfl
  · rcases Bool.or_eq_true_iff.mp h with h | h
    · exact isBlank_of_between (of_decide_eq_true h).1 (of_decide_eq_true h).2 (by decide)
    · obtain ⟨h₁, h₂⟩ := Bool.and_eq_true_iff.mp h
      exact isBlank_of_between (of_decide_eq_true h₁) (of_decide_eq_true h₂) (by decide)
  · rfl

theorem isBlank_of_continuesWord (h : continuesWord c = true) : isBlank c = false := by
  rcases Bool.or_eq_true_iff.mp h with h | h
  · exact isBlank_of_startsWord h
  · exact isBlank_of_isDigit h

end

theorem Mark.isBlank_of_mem_spelling (m : Mark) : ∀ c ∈ m.spelling.toList, isBlank c = false := by
  have h : (all.all fun m => m.spelling.toList.all (!isBlank ·)) = true := by decide +kernel
  simpa using List.all_eq_true.mp h m m.mem_all

theorem Kind.name_bounds (k : Kind) :
    k.name.toList ≠ [] ∧ k.name.toList.length ≤ 13 ∧ ∀ c ∈ k.name.toList, isBlank c = false := by
  have h : (all.all fun k => decide (k.name.toList ≠ [] ∧ k.name.toList.length ≤ 13) &&
      k.name.toList.all (!isBlank ·)) = true := by decide +kernel
  simpa [and_assoc] using List.all_eq_true.mp h k k.mem_all

/-! ## How tokens are written -/

/-- The tokens of texts, with their lexemes and values. -/
inductive Token.Form : Token → Prop
  | endOfFile (line : Nat) : Form (.endOfFile line)
  | plain {kind p line} (hk : kind ≠ .endOfFile ∧ kind ≠ .number ∧ kind ≠ .string) (hp : p ≠ [])
    (hb : ∀ c ∈ p, isBlank c = false) : Form ⟨kind, .ofList p, none, line⟩
  | number {p line} (hp : p ≠ []) (hb : ∀ c ∈ p, isBlank c = false) :
    Form ⟨.number, .ofList p, some (.number (Numeral.ofDigits p).value), line⟩
  | string {t line} (ht : '"' ∉ t) :
    Form ⟨.string, .ofList ('"' :: (t ++ ['"'])), some (.string (.ofList t)), line⟩

theorem Next.numeral_isBlank {p r : List Char} (h : Next .numeral p r) : ∀ c ∈ p, isBlank c = false := by
  intro c hc
  rcases Bool.or_eq_true_iff.mp (h.allows c hc) with hd | hp
  · exact isBlank_of_isDigit hd
  · rw [of_decide_eq_true hp]
    rfl

theorem Shape.item?_form {k : Shape} {p r : List Char} {n : Nat} {t : Token} (h : Next k p r)
    (ht : k.item? n p = some (.token t)) : t.Form := by
  have hp := h.ne_nil
  cases k with
  | blank | comment | openString | stray => cases ht
  | mark m =>
    cases ht
    cases h
    exact .plain ⟨nofun, nofun, nofun⟩ hp m.isBlank_of_mem_spelling
  | numeral =>
    cases ht
    exact .number hp h.numeral_isBlank
  | string =>
    cases ht
    cases h with
    | string hq => simpa using Token.Form.string hq
  | word =>
    cases ht
    refine .plain ?_ hp fun d hd => isBlank_of_continuesWord (h.allows d hd)
    unfold Kind.ofSpelling?
    cases Keyword.ofSpelling? (.ofList p) <;> exact ⟨nofun, nofun, nofun⟩

/-- A token that some text has, or the end of one. -/
def Delivered (t : Token) : Prop := ∃ source, t ∈ (lex source (#[] : Array Diagnostic)).1

theorem Delivered.form {t : Token} (h : Delivered t) : t.Form := by
  obtain ⟨source, hs⟩ := h
  rcases piece_of_mem hs with he | ⟨k, p, r, hn, -, hi⟩
  · exact he ▸ .endOfFile _
  · exact Shape.item?_form hn (hi t.line)

/-! ## Columns -/

namespace Token
variable {t : Token}

/-- The line number in its column, and the kind. -/
def front (t : Token) : List Char :=
  List.replicate (4 - (Nat.toDigits 10 t.line).length) ' ' ++ Nat.toDigits 10 t.line ++
    ' ' :: t.kind.name.toList

/-- The filling between the kind and the lexeme. -/
def gap (t : Token) : List Char := List.replicate (14 - t.kind.name.toList.length) ' '

theorem columns_eq (t : Token) :
    t.columns = t.front ++ (t.gap ++ (t.lexeme.toList ++ t.literalSuffix.toList)) := by
  obtain ⟨-, hk, -⟩ := t.kind.name_bounds
  have hg : 14 - t.kind.name.toList.length = 13 - t.kind.name.toList.length + 1 := by omega
  rw [front, gap, hg, List.replicate_succ']
  simp [columns, lineField, kindField, Field.pad, Field.margins]

theorem length_front_gap (t : Token) :
    t.front.length + t.gap.length = max 4 (Nat.toDigits 10 t.line).length + 15 := by
  obtain ⟨-, hk, -⟩ := t.kind.name_bounds
  simp only [front, gap, List.length_append, List.length_replicate, List.length_cons]
  omega

theorem endsVisibly_front (t : Token) : EndsVisibly t.front := by
  obtain ⟨hn, -, hb⟩ := t.kind.name_bounds
  rw [front, ← List.singleton_append (l := t.kind.name.toList), ← List.append_assoc]
  exact (endsVisibly_of_forall hn hb).append _

theorem not_mem_front (t : Token) : '\r' ∉ t.front ∧ '\n' ∉ t.front := by
  obtain ⟨-, -, hb⟩ := t.kind.name_bounds
  have hd : ∀ c, isBlank c = true → c ≠ ' ' → c ∉ t.front := by
    intro c hc hs h
    simp only [front, List.mem_append, List.mem_replicate, List.mem_cons] at h
    rcases h with (⟨-, h⟩ | h) | h | h
    · exact hs h
    · rw [isBlank_of_isDigit (Nat.isDigit_of_mem_toDigits (by decide) (by decide) h)] at hc
      cases hc
    · exact hs h
    · rw [hb c h] at hc
      cases hc
  exact ⟨hd '\r' rfl (by decide), hd '\n' rfl (by decide)⟩

theorem escapeBreaks_columns (t : Token) : escapeBreaks t.columns =
    t.front ++ (t.gap ++ (escapeBreaks t.lexeme.toList ++ escapeBreaks t.literalSuffix.toList)) := by
  have hg : escapeBreaks t.gap = t.gap := escapeBreaks_eq_self (by simp [gap]) (by simp [gap])
  rw [columns_eq, escapeBreaks_append, escapeBreaks_append, escapeBreaks_append, hg,
    escapeBreaks_eq_self t.not_mem_front.1 t.not_mem_front.2]

theorem Form.endsVisibly_lexeme (h : t.Form) (hl : t.lexeme ≠ "") : EndsVisibly (escapeBreaks t.lexeme.toList) := by
  cases h with
  | endOfFile => exact absurd rfl hl
  | plain _ hp hb | number hp hb =>
    rw [String.toList_ofList, escapeBreaks_of_visible hb]
    exact endsVisibly_of_forall hp hb
  | @string s =>
    rw [String.toList_ofList, escapeBreaks_cons, escapeBreaks_append]
    exact ⟨_, '"', (List.append_assoc ..).symm, rfl⟩

theorem Form.literalSuffix_eq (h : t.Form) (hl : t.lexeme = "") : t.literalSuffix = "" := by
  cases h with
  | endOfFile | plain => rfl
  | number hp => exact absurd (String.ofList_eq_empty_iff.mp hl) hp
  | string => exact absurd (String.ofList_eq_empty_iff.mp hl) (List.cons_ne_nil _ _)

/-- What stands behind the kind, once the line is trimmed. -/
def back (t : Token) : List Char :=
  if t.lexeme = "" then []
  else t.gap ++ (escapeBreaks t.lexeme.toList ++ trimEnd (escapeBreaks t.literalSuffix.toList))

theorem Form.toList_listingLine (h : t.Form) : t.listingLine.toList = t.front ++ t.back := by
  rw [listingLine, String.toList_ofList, escapeBreaks_columns, t.endsVisibly_front.trimEnd_append]
  unfold back
  congr 1
  split
  · rename_i hl
    rw [hl, h.literalSuffix_eq hl]
    exact trimEnd_eq_nil (by simp [gap, escapeBreaks, isBlank_of_isWhitespace])
  · rename_i hl
    rw [← List.append_assoc, ((h.endsVisibly_lexeme hl).append t.gap).trimEnd_append, List.append_assoc]

/-- The line `l` of a listing shows `t`. -/
structure Listed (t : Token) (l : List Char) : Prop where
  alone : (listing [t]).toList = l ++ ['\n']
  visible : EndsVisibly l
  /-- Without a lexeme, only filling is trimmed. -/
  bare : t.lexeme = "" → l = t.front ∧ ∃ n, escapeBreaks t.columns = l ++ List.replicate n ' '
  /-- Behind a lexeme, only the value and the blank before it are trimmed. -/
  full : t.lexeme ≠ "" → ∃ n value cut,
    t.front.length + n = max 4 (Nat.toDigits 10 t.line).length + 15 ∧
    l = t.front ++ List.replicate n ' ' ++ escapeBreaks t.lexeme.toList ++ value ∧
    escapeBreaks t.columns = l ++ cut ∧ escapeBreaks t.literalSuffix.toList = value ++ cut ∧
    ∀ c ∈ cut, isBlank c = true

/-! ## Lines -/

theorem not_mem_listingLine (t : Token) : '\r' ∉ t.listingLine.toList ∧ '\n' ∉ t.listingLine.toList := by
  obtain ⟨hr, hn⟩ := not_mem_escapeBreaks t.columns
  obtain ⟨cut, hc, -⟩ := exists_trimmed (escapeBreaks t.columns)
  rw [hc] at hr hn
  rw [listingLine, String.toList_ofList]
  exact ⟨fun h => hr (List.mem_append_left _ h), fun h => hn (List.mem_append_left _ h)⟩

theorem Form.listed (h : t.Form) : t.Listed t.listingLine.toList where
  alone := by simp [listing]
  visible := by
    rw [listingLine, String.toList_ofList]
    refine endsVisibly_trimEnd ?_
    rw [escapeBreaks_columns, t.endsVisibly_front.trimEnd_append]
    obtain ⟨cs, c, hc, -⟩ := t.endsVisibly_front
    simp [hc]
  bare hl := by
    have hb : t.listingLine.toList = t.front := by rw [h.toList_listingLine, back, if_pos hl, List.append_nil]
    refine ⟨hb, 14 - t.kind.name.toList.length, ?_⟩
    rw [hb, escapeBreaks_columns, h.literalSuffix_eq hl, hl]
    simp [gap, escapeBreaks]
  full hl := by
    obtain ⟨cut, hc, hb⟩ := exists_trimmed (escapeBreaks t.literalSuffix.toList)
    have hf := t.length_front_gap
    rw [gap, List.length_replicate] at hf
    have hline : t.listingLine.toList = t.front ++ t.gap ++ escapeBreaks t.lexeme.toList ++
        trimEnd (escapeBreaks t.literalSuffix.toList) := by
      rw [h.toList_listingLine, back, if_neg hl, List.append_assoc, List.append_assoc]
    refine ⟨_, _, cut, hf, hline, ?_, hc, hb⟩
    rw [hline, List.append_assoc _ _ cut, ← hc, escapeBreaks_columns]
    simp

end Token

theorem toList_listing_cons (t : Token) (ts : List Token) :
    (listing (t :: ts)).toList = t.listingLine.toList ++ '\n' :: (listing ts).toList := by
  simp [listing]

theorem listing_append (ts us : List Token) : listing (ts ++ us) = listing ts ++ listing us := by
  simp [listing]

theorem splitOn_listing (ts : List Token) :
    (listing ts).toList.splitOn '\n' = ts.map (fun t => t.listingLine.toList) ++ [[]] := by
  induction ts with
  | nil => rfl
  | cons t ts ih =>
    have hn : ∀ c ∈ t.listingLine.toList, (c == '\n') = false := by
      intro c hc
      rw [beq_eq_false_iff_ne]
      rintro rfl
      exact t.not_mem_listingLine.2 hc
    rw [toList_listing_cons, List.splitOn, List.splitOnP_append_cons_of_forall_mem hn _ (by decide)]
    exact congrArg _ ih

theorem count_listing (ts : List Token) : (listing ts).toList.count '\n' = ts.length := by
  induction ts with
  | nil => rfl
  | cons t ts ih =>
    rw [toList_listing_cons, List.count_append, List.count_cons_self, ih,
      List.count_eq_zero.mpr t.not_mem_listingLine.2, List.length_cons, Nat.zero_add]

theorem not_mem_listing (ts : List Token) : '\r' ∉ (listing ts).toList := by
  induction ts with
  | nil => simp [listing]
  | cons t ts ih =>
    rw [toList_listing_cons]
    simp [ih, t.not_mem_listingLine.1]

/-- **Listings.** A listing has one line for each token, whatever stands in the token, and the line shows it as
it would be shown alone. -/
theorem listing_lines {ts : List Token} (h : ∀ t ∈ ts, Delivered t) :
    (listing ts).toList.count '\n' = ts.length ∧ '\r' ∉ (listing ts).toList ∧
    (∃ ls, (listing ts).toList.splitOn '\n' = ls ++ [[]] ∧ List.Forall₂ Token.Listed ts ls) ∧
    ∀ us, listing (ts ++ us) = listing ts ++ listing us := by
  refine ⟨count_listing ts, not_mem_listing ts, ⟨_, splitOn_listing ts, ?_⟩, listing_append ts⟩
  rw [List.forall₂_map_right_iff, List.forall₂_same]
  exact fun t ht => (h t ht).form.listed

/-- The value of the string is trimmed to its escaped breaks, and its lexeme is not. -/
theorem listing_lines_breaks_before_blank :
    listing [.endOfFile 3, ⟨.string, "\"\r\n\u2003\"", some (.string "\r\n\u2003"), 1⟩] =
      "   3 EOF\n   1 STRING        \"\\r\\n\u2003\" \\r\\n\n" ∧
    ∃ ls, (listing [.endOfFile 3, ⟨.string, "\"\r\n\u2003\"", some (.string "\r\n\u2003"), 1⟩]).toList.splitOn '\n' =
        ls ++ [[]] ∧
      List.Forall₂ Token.Listed
        [.endOfFile 3, ⟨.string, "\"\r\n\u2003\"", some (.string "\r\n\u2003"), 1⟩] ls := by
  have h₁ : Delivered (.endOfFile 3) := ⟨"\n\n", List.mem_of_getElem? (i := 0) (by decide +kernel)⟩
  have h₂ : Delivered ⟨.string, "\"\r\n\u2003\"", some (.string "\r\n\u2003"), 1⟩ :=
    ⟨"\"\r\n\u2003\"", List.mem_of_getElem? (i := 0) (by decide +kernel)⟩
  exact ⟨by decide +kernel, (listing_lines (by simp [h₁, h₂])).2.2.1⟩

end LoxLex
