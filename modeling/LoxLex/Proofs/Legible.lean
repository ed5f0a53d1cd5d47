import LoxLex.Proofs.Listing
import LoxLex.Proofs.Script

/-!
# Listings are legible

From a line of a listing the number of the line, the kind and the lexeme can be read back, although nothing
but blanks stands between them and the end of the line is trimmed. The lexeme tells the value. What is lost is
whether a break was written as a break or as its escape.
-/

namespace LoxLex

/-- The value with its breaks escaped. -/
def Literal.oneLine : Literal → Literal
  | .number x => .number x
  | .string s => .string (.ofList (escapeBreaks s.toList))

/-- Tokens that are the same once their breaks are escaped. -/
structure Token.Alike (t u : Token) : Prop where
  line : t.line = u.line
  kind : t.kind = u.kind
  lexeme : escapeBreaks t.lexeme.toList = escapeBreaks u.lexeme.toList
  literal : t.literal.map Literal.oneLine = u.literal.map Literal.oneLine

/-! ## Escapes -/

section
variable {cs ds : List Char}

theorem escapeBreaks_escapeBreaks (cs : List Char) : escapeBreaks (escapeBreaks cs) = escapeBreaks cs :=
  escapeBreaks_eq_self (not_mem_escapeBreaks cs).1 (not_mem_escapeBreaks cs).2

theorem escapeBreaks_quoted (cs : List Char) :
    escapeBreaks ('"' :: (cs ++ ['"'])) = '"' :: (escapeBreaks cs ++ ['"']) := by
  rw [escapeBreaks_cons, escapeBreaks_append]
  rfl

theorem quote_not_mem_escapeBreaks (h : '"' ∉ cs) : '"' ∉ escapeBreaks cs := by
  intro hm
  rcases mem_escapeBreaks hm with ⟨hm, -⟩ | hm
  · exact h hm
  · exact absurd hm (by decide)

def unescapeBreaks : List Char → List Char
  | [] => []
  | '\\' :: 'r' :: cs => '\r' :: unescapeBreaks cs
  | '\\' :: 'n' :: cs => '\n' :: unescapeBreaks cs
  | c :: cs => c :: unescapeBreaks cs

theorem unescapeBreaks_escapeBreaks (h : '\\' ∉ cs) : unescapeBreaks (escapeBreaks cs) = cs := by
  induction cs with
  | nil => rfl
  | cons c cs ih =>
    obtain ⟨hc, hcs⟩ := not_or.mp (List.mem_cons.not.mp h)
    rw [escapeBreaks_cons]
    by_cases hr : c = '\r'
    · rw [hr]
      exact congrArg _ (ih hcs)
    · by_cases hn : c = '\n'
      · rw [hn]
        exact congrArg _ (ih hcs)
      · have hs : escapeBreaks [c] = [c] := by simp [escapeBreaks, hr, hn]
        rw [hs, List.singleton_append, unescapeBreaks, ih hcs]
        · exact fun _ e => absurd e.symm hc
        · exact fun _ e => absurd e.symm hc

/-- Without backslashes the escapes can be told from other text. -/
theorem escapeBreaks_inj (hc : '\\' ∉ cs) (hd : '\\' ∉ ds) (h : escapeBreaks cs = escapeBreaks ds) : cs = ds := by
  rw [← unescapeBreaks_escapeBreaks hc, h, unescapeBreaks_escapeBreaks hd]

end

/-! ## The number and the kind -/

theorem Kind.name_injective {j k : Kind} (h : j.name = k.name) : j = k := by
  have hr : (all.all fun k => decide (ofName? k.name = some k)) = true := by decide +kernel
  have hn : ∀ k : Kind, ofName? k.name = some k := fun k => by simpa using List.all_eq_true.mp hr k k.mem_all
  exact Option.some.inj ((hn j).symm.trans (h ▸ hn k))

namespace Token
variable {t u : Token} {r s : List Char}

theorem dropWhile_front (t : Token) (r : List Char) :
    (t.front ++ r).dropWhile (· = ' ') = Nat.toDigits 10 t.line ++ ' ' :: (t.kind.name.toList ++ r) := by
  have hs : Stops (· = ' ') (Nat.toDigits 10 t.line ++ ' ' :: (t.kind.name.toList ++ r)) := by
    intro c hc
    obtain ⟨d, ds, hd⟩ := List.exists_cons_of_ne_nil (Nat.toDigits_ne_nil (n := t.line) (b := 10))
    rw [hd] at hc
    obtain rfl := Option.some.inj hc
    rw [decide_eq_false_iff_not]
    rintro rfl
    exact not_mem_toDigits rfl t.line (hd ▸ List.mem_cons_self ..)
  have hb : ∀ n, ∀ c ∈ List.replicate n ' ', decide (c = ' ') = true := fun n c hc =>
    decide_eq_true (List.eq_of_mem_replicate hc)
  rw [front, List.append_assoc, List.append_assoc]
  exact dropWhile_run (hb _) hs

theorem front_append_inj (hr : Stops (· ≠ ' ') r) (hs : Stops (· ≠ ' ') s) (h : t.front ++ r = u.front ++ s) :
    t.line = u.line ∧ t.kind = u.kind ∧ r = s := by
  have hd := congrArg (List.dropWhile (· = ' ')) h
  rw [dropWhile_front, dropWhile_front] at hd
  obtain ⟨hl, hn⟩ := append_sep_inj (not_mem_toDigits rfl _) (not_mem_toDigits rfl _) hd
  have hw : ∀ k : Kind, ∀ c ∈ k.name.toList, decide (c ≠ ' ') = true := by
    intro k c hc
    obtain ⟨-, -, hb⟩ := k.name_bounds
    rw [decide_eq_true_eq]
    rintro rfl
    have := hb ' ' hc
    cases this
  have hk := congrArg (List.takeWhile (· ≠ ' ')) hn
  rw [takeWhile_run (hw _) hr, takeWhile_run (hw _) hs] at hk
  rw [hk] at hn
  exact ⟨toDigits_injective hl, Kind.name_injective (String.toList_inj.mp hk), List.append_cancel_left hn⟩

theorem stops_back (t : Token) : Stops (· ≠ ' ') t.back := by
  obtain ⟨-, hk, -⟩ := t.kind.name_bounds
  have hg : 14 - t.kind.name.toList.length = 13 - t.kind.name.toList.length + 1 := by omega
  unfold back
  split
  · exact stops_nil
  · rw [gap, hg, List.replicate_succ]
    exact stops_cons (by decide)

/-! ## The lexeme and the value -/

/-- The value that the kind and the lexeme tell. -/
def valueOf (k : Kind) (p : List Char) : Option Literal :=
  match k with
  | .number => some (.number (Numeral.ofDigits p).value)
  | .string => some (.string (.ofList p.tail.dropLast))
  | _ => none

theorem Form.literal_eq (h : t.Form) : t.literal = valueOf t.kind t.lexeme.toList := by
  cases h with
  | endOfFile => rfl
  | @plain k _ _ hk =>
    cases k with
    | number => exact absurd rfl hk.2.1
    | string => exact absurd rfl hk.2.2
    | _ => rfl
  | number => rw [String.toList_ofList]; rfl
  | string => simp [valueOf]

theorem Form.lexeme_eq_empty_iff (h : t.Form) : t.lexeme = "" ↔ t.kind = .endOfFile := by
  cases h with
  | endOfFile => exact iff_of_true rfl rfl
  | plain hk hp => exact iff_of_false (hp ∘ String.ofList_eq_empty_iff.mp) hk.1
  | number hp => exact iff_of_false (hp ∘ String.ofList_eq_empty_iff.mp) nofun
  | string => exact iff_of_false (List.cons_ne_nil _ _ ∘ String.ofList_eq_empty_iff.mp) nofun

theorem Form.visible (h : t.Form) (hk : t.kind ≠ .string) : ∀ c ∈ t.lexeme.toList, isBlank c = false := by
  cases h with
  | endOfFile => simp [Token.endOfFile]
  | plain _ _ hb | number _ hb => rwa [String.toList_ofList]
  | string => exact absurd rfl hk

theorem Form.quoted (h : t.Form) (hk : t.kind = .string) : ∃ s, '"' ∉ s ∧ t.lexeme.toList = '"' :: (s ++ ['"']) ∧
    t.literal = some (.string (.ofList s)) := by
  cases h with
  | endOfFile | number => cases hk
  | plain hn => exact absurd hk hn.2.2
  | string hs => exact ⟨_, hs, String.toList_ofList, rfl⟩

theorem stops_literalSuffix (t : Token) : Stops (!isBlank ·) (trimEnd (escapeBreaks t.literalSuffix.toList)) := by
  obtain ⟨cut, hc, -⟩ := exists_trimmed (escapeBreaks t.literalSuffix.toList)
  intro c h
  have h₁ : (escapeBreaks t.literalSuffix.toList).head? = some c := by rw [hc, List.head?_append, h]; rfl
  unfold literalSuffix at h₁
  split at h₁
  · rw [String.toList_append, escapeBreaks_append] at h₁
    obtain rfl := Option.some.inj h₁
    rfl
  · cases h₁

theorem Form.lexeme_of_back (ht : t.Form) (hu : u.Form) (hk : t.kind = u.kind) (h : t.back = u.back) :
    escapeBreaks t.lexeme.toList = escapeBreaks u.lexeme.toList := by
  by_cases he : t.kind = .endOfFile
  · rw [ht.lexeme_eq_empty_iff.mpr he, hu.lexeme_eq_empty_iff.mpr (hk ▸ he)]
  unfold back at h
  rw [if_neg (ht.lexeme_eq_empty_iff.not.mpr he), if_neg (hu.lexeme_eq_empty_iff.not.mpr (hk ▸ he)), gap, gap,
    hk] at h
  have h := List.append_cancel_left h
  by_cases hs : t.kind = .string
  · -- the lexeme ends at the second quote
    obtain ⟨s, hq, hl, -⟩ := ht.quoted hs
    obtain ⟨s', hq', hl', -⟩ := hu.quoted (hk ▸ hs)
    rw [hl, hl', escapeBreaks_quoted, escapeBreaks_quoted] at h ⊢
    simp only [List.cons_append, List.append_assoc, List.nil_append] at h
    rw [(append_sep_inj (quote_not_mem_escapeBreaks hq) (quote_not_mem_escapeBreaks hq') (List.cons.inj h).2).1]
  · -- the lexeme ends before the first blank
    have hb := ht.visible hs
    have hb' := hu.visible (hk ▸ hs)
    rw [escapeBreaks_of_visible hb, escapeBreaks_of_visible hb'] at h ⊢
    have h₁ := congrArg (List.takeWhile (!isBlank ·)) h
    rwa [takeWhile_run (fun c hc => by rw [hb c hc]; rfl) t.stops_literalSuffix,
      takeWhile_run (fun c hc => by rw [hb' c hc]; rfl) u.stops_literalSuffix] at h₁

theorem Form.oneLine_literal (ht : t.Form) (hu : u.Form) (hk : t.kind = u.kind)
    (hl : escapeBreaks t.lexeme.toList = escapeBreaks u.lexeme.toList) :
    t.literal.map Literal.oneLine = u.literal.map Literal.oneLine := by
  by_cases hs : t.kind = .string
  · obtain ⟨s, -, hp, hv⟩ := ht.quoted hs
    obtain ⟨s', -, hp', hv'⟩ := hu.quoted (hk ▸ hs)
    rw [hp, hp', escapeBreaks_quoted, escapeBreaks_quoted] at hl
    rw [hv, hv', Option.map_some, Option.map_some, Literal.oneLine, Literal.oneLine, String.toList_ofList,
      String.toList_ofList, List.append_cancel_right (List.cons.inj hl).2]
  · rw [escapeBreaks_of_visible (ht.visible hs), escapeBreaks_of_visible (hu.visible (hk ▸ hs))] at hl
    rw [ht.literal_eq, hu.literal_eq, hk, hl]

theorem Form.alike (ht : t.Form) (hu : u.Form) (h : t.listingLine = u.listingLine) : t.Alike u := by
  have h := congrArg String.toList h
  rw [ht.toList_listingLine, hu.toList_listingLine] at h
  obtain ⟨hn, hk, hb⟩ := front_append_inj t.stops_back u.stops_back h
  have hl := ht.lexeme_of_back hu hk hb
  exact ⟨hn, hk, hl, ht.oneLine_literal hu hk hl⟩

theorem escapeBreaks_literalSuffix (t : Token) : escapeBreaks t.literalSuffix.toList =
    (t.literal.map Literal.oneLine).elim [] fun v => ' ' :: escapeBreaks v.text.toList := by
  unfold literalSuffix
  cases t.literal with
  | none => rfl
  | some v =>
    simp only [String.toList_append, escapeBreaks_append, Option.map_some, Option.elim]
    cases v with
    | number => rfl
    | string s =>
      simp only [Literal.oneLine, Literal.text, String.toList_ofList, escapeBreaks_escapeBreaks]
      rfl

theorem Alike.listingLine_eq (h : t.Alike u) : t.listingLine = u.listingLine := by
  rw [listingLine, listingLine, escapeBreaks_columns, escapeBreaks_columns, escapeBreaks_literalSuffix,
    escapeBreaks_literalSuffix, front, front, gap, gap, h.line, h.kind, h.lexeme, h.literal]

theorem Form.eq_of_alike (ht : t.Form) (hu : u.Form) (h : t.Alike u)
    (hb : t.kind = .string → '\\' ∉ t.lexeme.toList) (hb' : u.kind = .string → '\\' ∉ u.lexeme.toList) : t = u := by
  have hl : t.lexeme.toList = u.lexeme.toList := by
    by_cases hs : t.kind = .string
    · exact escapeBreaks_inj (hb hs) (hb' (h.kind ▸ hs)) h.lexeme
    · have := h.lexeme
      rwa [escapeBreaks_of_visible (ht.visible hs), escapeBreaks_of_visible (hu.visible (h.kind ▸ hs))] at this
  have hv : t.literal = u.literal := by rw [ht.literal_eq, hu.literal_eq, h.kind, hl]
  cases t
  cases u
  exact Token.mk.injEq .. ▸ ⟨h.kind, String.toList_inj.mp hl, hv, h.line⟩

end Token

/-! ## Lists of tokens -/

theorem listing_eq (ts : List Token) : listing ts = .join ((ts.map Token.listingLine).map (· ++ "\n")) := by
  rw [listing, List.map_map]
  rfl

theorem listing_inj {ts us : List Token} (h : listing ts = listing us) :
    ts.map Token.listingLine = us.map Token.listingLine := by
  have hn : ∀ ts : List Token, ∀ a ∈ ts.map Token.listingLine, '\n' ∉ a.toList := by
    intro ts a ha
    obtain ⟨t, -, rfl⟩ := List.mem_map.mp ha
    exact t.not_mem_listingLine.2
  rw [listing_eq, listing_eq] at h
  exact join_lines_injective (hn ts) (hn us) h

theorem forall₂_alike : ∀ {ts us : List Token}, (∀ t ∈ ts, t.Form) → (∀ u ∈ us, u.Form) →
    ts.map Token.listingLine = us.map Token.listingLine → List.Forall₂ Token.Alike ts us
  | [], [], _, _, _ => .nil
  | [], _ :: _, _, _, h => by cases h
  | _ :: _, [], _, _, h => by cases h
  | t :: ts, u :: us, ht, hu, h => by
    obtain ⟨ht, hts⟩ := List.forall_mem_cons.mp ht
    obtain ⟨hu, hus⟩ := List.forall_mem_cons.mp hu
    obtain ⟨h, hs⟩ := List.cons.inj h
    exact .cons (ht.alike hu h) (forall₂_alike hts hus hs)

theorem listing_eq_of_alike {ts us : List Token} (h : List.Forall₂ Token.Alike ts us) : listing ts = listing us := by
  have hl : ts.map Token.listingLine = us.map Token.listingLine := by
    induction h with
    | nil => rfl
    | cons h _ ih => rw [List.map_cons, h.listingLine_eq, ih, List.map_cons]
  rw [listing_eq, listing_eq, hl]

theorem eq_of_forall₂_alike {ts us : List Token} (h : List.Forall₂ Token.Alike ts us) (ht : ∀ t ∈ ts, t.Form)
    (hu : ∀ u ∈ us, u.Form) (htb : ∀ t ∈ ts, t.kind = .string → '\\' ∉ t.lexeme.toList)
    (hub : ∀ u ∈ us, u.kind = .string → '\\' ∉ u.lexeme.toList) : ts = us := by
  induction h with
  | nil => rfl
  | cons h _ ih =>
    rw [List.forall_mem_cons] at ht hu htb hub
    rw [ht.1.eq_of_alike hu.1 h htb.1 hub.1, ih ht.2 hu.2 htb.2 hub.2]

/-- **Listings are legible.** Two lists of tokens have the same listing just if they are the same, token for token,
once breaks are escaped; and if no string has a backslash, only if they are the same. -/
theorem listing_legible {ts us : List Token} (ht : ∀ t ∈ ts, Delivered t) (hu : ∀ u ∈ us, Delivered u) :
    (listing ts = listing us ↔ List.Forall₂ Token.Alike ts us) ∧
    ((∀ t ∈ ts ++ us, t.kind = .string → '\\' ∉ t.lexeme.toList) → listing ts = listing us → ts = us) := by
  have ht : ∀ t ∈ ts, t.Form := fun t h => (ht t h).form
  have hu : ∀ u ∈ us, u.Form := fun u h => (hu u h).form
  have ha : listing ts = listing us → List.Forall₂ Token.Alike ts us := fun h => forall₂_alike ht hu (listing_inj h)
  refine ⟨⟨ha, listing_eq_of_alike⟩, fun hb h => ?_⟩
  rw [List.forall_mem_append] at hb
  exact eq_of_forall₂_alike (ha h) ht hu hb.1 hb.2

/-- A break and its escape are listed alike. Without backslashes an empty string and a blank one are not. -/
theorem listing_legible_breaks_and_blanks :
    List.Forall₂ Token.Alike [⟨.string, "\"\n\"", some (.string "\n"), 1⟩, .endOfFile 1]
      [⟨.string, "\"\\n\"", some (.string "\\n"), 1⟩, .endOfFile 1] ∧
    listing [⟨.string, "\"\"", some (.string ""), 1⟩] ≠ listing [⟨.string, "\" \"", some (.string " "), 1⟩] := by
  have h₁ : Delivered ⟨.string, "\"\n\"", some (.string "\n"), 1⟩ :=
    ⟨"\"\n\"", List.mem_of_getElem? (i := 0) (by decide +kernel)⟩
  have h₂ : Delivered ⟨.string, "\"\\n\"", some (.string "\\n"), 1⟩ :=
    ⟨"\"\\n\"", List.mem_of_getElem? (i := 0) (by decide +kernel)⟩
  have h₃ : Delivered ⟨.string, "\"\"", some (.string ""), 1⟩ :=
    ⟨"\"\"", List.mem_of_getElem? (i := 0) (by decide +kernel)⟩
  have h₄ : Delivered ⟨.string, "\" \"", some (.string " "), 1⟩ :=
    ⟨"\" \"", List.mem_of_getElem? (i := 0) (by decide +kernel)⟩
  have h₅ : Delivered (.endOfFile 1) := ⟨"", List.mem_of_getElem? (i := 0) (by decide +kernel)⟩
  refine ⟨(listing_legible (by simp [h₁, h₅]) (by simp [h₂, h₅])).1.mp (by decide +kernel), fun h => ?_⟩
  have := (listing_legible (by simp [h₃]) (by simp [h₄])).2 (by decide +kernel) h
  exact absurd this (by decide)

end LoxLex
