import LoxLex.Proofs.Front

/-!
# Maximal munch

Each shape has its texts, whatever stands around them. The first piece of a text is the longest beginning
that has a shape, or a single character if there is none. This says nothing about how a lexer looks ahead,
and yet a lexer cuts every text into just these pieces.
-/

namespace LoxLex

/-- The texts of a shape. Stray characters are what is left over, so no text has their shape. -/
def Shape.Fits : Shape → List Char → Prop
  | .blank, p => ∃ c ∈ blanks, p = [c]
  | .comment, p => ∃ t, '\n' ∉ t ∧ p = '/' :: '/' :: t
  | .mark m, p => p = m.spelling.toList
  | .string, p => ∃ t, '"' ∉ t ∧ p = '"' :: (t ++ ['"'])
  | .numeral, p => ∃ ds, IsDigits ds ∧ (p = ds ∨ ∃ es, IsDigits es ∧ p = ds ++ '.' :: es)
  | .word, p => ∃ c t, (c.isAlpha = true ∨ c = '_') ∧ (∀ d ∈ t, d.isAlphanum = true ∨ d = '_') ∧ p = c :: t
  | .openString, p => ∃ t, '"' ∉ t ∧ p = '"' :: t
  | .stray _, _ => False

/-- `p` is a beginning of `cs` with a shape. A string may stay open only up to the end of `cs`. -/
structure Begins (cs : List Char) (k : Shape) (p : List Char) : Prop where
  fits : k.Fits p
  starts : p <+: cs
  to_end : k = .openString → p = cs

inductive Munch : List Char → Shape → List Char → Prop
  | longest {cs k p} : Begins cs k p → (∀ k' p', Begins cs k' p' → p'.length ≤ p.length) → Munch cs k p
  | stray {c cs} : (∀ k p, ¬ Begins (c :: cs) k p) → Munch (c :: cs) (.stray c) [c]

inductive Munched : List Char → List (Shape × List Char) → Prop
  | nil : Munched [] []
  | cons {k p r ps} : Munch (p ++ r) k p → Munched r ps → Munched (p ++ r) ((k, p) :: ps)

/-! ## A longest beginning -/

theorem exists_longest (cs : List Char) (n : Nat) : ∀ k p, Begins cs k p → cs.length ≤ p.length + n →
    ∃ k p, Begins cs k p ∧ ∀ k' p', Begins cs k' p' → p'.length ≤ p.length := by
  induction n with
  | zero => exact fun k p h hl => ⟨k, p, h, fun k' p' h' => Nat.le_trans h'.starts.length_le hl⟩
  | succ n ih =>
    intro k p h hl
    by_cases hm : ∃ k' p', Begins cs k' p' ∧ p.length < p'.length
    · obtain ⟨k', p', h', hlt⟩ := hm
      exact ih k' p' h' (by omega)
    · refine ⟨k, p, h, fun k' p' h' => Nat.le_of_not_lt fun hlt => hm ⟨k', p', h', hlt⟩⟩

theorem exists_munch (cs : List Char) (hne : cs ≠ []) : ∃ k p r, cs = p ++ r ∧ Munch cs k p := by
  by_cases h : ∃ k p, Begins cs k p
  · obtain ⟨k, p, hb⟩ := h
    obtain ⟨k, p, hb, hm⟩ := exists_longest cs cs.length k p hb (Nat.le_add_left _ _)
    obtain ⟨r, hr⟩ := hb.starts
    exact ⟨k, p, r, hr.symm, .longest hb hm⟩
  · obtain ⟨c, cs, rfl⟩ := List.exists_cons_of_ne_nil hne
    exact ⟨.stray c, [c], cs, rfl, .stray fun k p hb => h ⟨k, p, hb⟩⟩

/-! ## The longest beginning is the next piece -/

section
variable {k : Shape} {p r : List Char}

theorem begins_of_next (h : Next k p r) (hk : ∀ c, k ≠ .stray c) : Begins (p ++ r) k p := by
  refine ⟨?_, List.prefix_append p r, ?_⟩
  · cases h with
    | blank hc => exact ⟨_, isWhitespace_iff.mp hc, rfl⟩
    | comment ht => exact ⟨_, ht, rfl⟩
    | mark => exact rfl
    | string ht => exact ⟨_, ht, rfl⟩
    | whole hd => exact ⟨_, hd, .inl rfl⟩
    | pointed hd he => exact ⟨_, hd, .inr ⟨_, he, rfl⟩⟩
    | word hc ht => exact ⟨_, _, startsWord_iff.mp hc, fun d hd => continuesWord_iff.mp (ht d hd), rfl⟩
    | openString ht => exact ⟨_, ht, rfl⟩
    | stray => exact absurd rfl (hk _)
  · rintro rfl
    cases h
    exact (List.append_nil _).symm

section
variable (hm : ∀ k' p', Begins (p ++ r) k' p' → p'.length ≤ p.length)
include hm

/-- The longest beginning does not go on with what follows it. -/
theorem not_longer (k' : Shape) {c : Char} (q : List Char) (hq : c :: q <+: r) (ho : k' ≠ .openString) :
    ¬ k'.Fits (p ++ c :: q) := by
  intro hf
  have := hm k' (p ++ c :: q) ⟨hf, (List.prefix_append_right_inj p).mpr hq, fun e => absurd e ho⟩
  simp only [List.length_append, List.length_cons] at this
  omega

theorem not_longer_head (k' : Shape) {c : Char} (hc : r.head? = some c) (ho : k' ≠ .openString) :
    ¬ k'.Fits (p ++ [c]) := by
  obtain ⟨r', rfl⟩ := List.head?_eq_some_iff.mp hc
  exact not_longer hm k' [] ⟨r', rfl⟩ ho

theorem ends_of_longest {m : Mark} (hf : p = m.spelling.toList) : m.Ends r := by
  intro c hc
  rw [← hf]
  refine ⟨fun e => ?_, fun n hn => ?_⟩
  · exact not_longer_head hm .comment hc nofun ⟨[], by simp, e⟩
  · exact not_longer_head hm (.mark n) hc nofun hn.symm

theorem next_of_digits (hd : IsDigits p) : Next .numeral p r := by
  refine .whole hd (stops_of_not ?_) fun hp => stops_of_not ?_
  · intro c hc he
    exact not_longer_head hm .numeral hc nofun ⟨_, isDigits_append hd (by simpa using he), .inl rfl⟩
  · intro c hc he
    obtain ⟨r, rfl⟩ := List.head?_eq_some_iff.mp hp
    obtain ⟨r, rfl⟩ := List.head?_eq_some_iff.mp hc
    have hs : IsDigits [c] := ⟨List.cons_ne_nil _ _, by simpa using he⟩
    exact not_longer hm .numeral [c] ⟨r, rfl⟩ nofun ⟨p, hd, .inr ⟨[c], hs, rfl⟩⟩

theorem next_of_pointed {ds es : List Char} (hd : IsDigits ds) (he : IsDigits es) (hp : p = ds ++ '.' :: es) :
    Next .numeral p r := by
  have hr : Stops Char.isDigit r := by
    apply stops_of_not; intro c hc hcd
    have hs : IsDigits (es ++ [c]) := isDigits_append he (by simpa using hcd)
    exact not_longer_head hm .numeral hc nofun ⟨ds, hd, .inr ⟨_, hs, by simp [hp]⟩⟩
  rw [hp]
  exact .pointed hd he hr

theorem next_of_word {c : Char} {t : List Char} (hc : c.isAlpha = true ∨ c = '_')
    (ht : ∀ d ∈ t, d.isAlphanum = true ∨ d = '_') (hp : p = c :: t) : Next .word p r := by
  have hr : Stops continuesWord r := by
    apply stops_of_not; intro d hd hdw
    have ht' : ∀ e ∈ t ++ [d], e.isAlphanum = true ∨ e = '_' := by
      intro e he
      rcases List.mem_append.mp he with he | he
      · exact ht e he
      · rw [List.mem_singleton.mp he]
        exact continuesWord_iff.mp hdw
    exact not_longer_head hm .word hd nofun ⟨c, t ++ [d], hc, ht', by simp [hp]⟩
  rw [hp]
  exact .word (startsWord_iff.mpr hc) (fun d hd => continuesWord_iff.mpr (ht d hd)) hr

theorem next_of_comment {t : List Char} (ht : '\n' ∉ t) (hp : p = '/' :: '/' :: t) : Next .comment p r := by
  have hr : Stops (· ≠ '\n') r := by
    apply stops_of_not; intro c hc hcn
    have ht' : '\n' ∉ t ++ [c] := by
      intro h
      rcases List.mem_append.mp h with h | h
      · exact ht h
      · exact of_decide_eq_true hcn (List.mem_singleton.mp h).symm
    exact not_longer_head hm .comment hc nofun ⟨t ++ [c], ht', by simp [hp]⟩
  rw [hp]
  exact .comment ht hr

end

theorem next_of_munch (h : Munch (p ++ r) k p) : Next k p r := by
  generalize hcs : p ++ r = cs at h
  cases h with
  | longest hb hm =>
    subst hcs
    cases k with
    | blank =>
      obtain ⟨c, hc, rfl⟩ := hb.fits
      exact .blank (isWhitespace_iff.mpr hc)
    | comment =>
      obtain ⟨t, ht, hp⟩ := hb.fits
      exact next_of_comment hm ht hp
    | mark m =>
      have hp : p = m.spelling.toList := hb.fits
      exact hp ▸ .mark (ends_of_longest hm hp)
    | string =>
      obtain ⟨t, ht, rfl⟩ := hb.fits
      exact .string ht
    | numeral =>
      obtain ⟨ds, hd, rfl | ⟨es, he, hp⟩⟩ := hb.fits
      · exact next_of_digits hm hd
      · exact next_of_pointed hm hd he hp
    | word =>
      obtain ⟨c, t, hc, ht, hp⟩ := hb.fits
      exact next_of_word hm hc ht hp
    | openString =>
      obtain ⟨t, ht, rfl⟩ := hb.fits
      obtain rfl : r = [] := by simpa using hb.to_end rfl
      exact .openString ht
    | stray => exact hb.fits.elim
  | @stray c cs hb =>
    obtain rfl : r = cs := by simpa using hcs
    obtain ⟨k, p, r', e, hn⟩ := exists_next c r
    -- the next piece has no other shape, since it would be a beginning
    have hk : ∃ d, k = .stray d := Classical.byContradiction fun hk =>
      hb k p (e ▸ begins_of_next hn fun d hd => hk ⟨d, hd⟩)
    obtain ⟨d, rfl⟩ := hk
    cases hn with
    | stray hc =>
      obtain ⟨rfl, rfl⟩ := List.cons.inj e
      exact .stray hc

theorem munch_iff_next : Munch (p ++ r) k p ↔ Next k p r := by
  refine ⟨next_of_munch, fun h => ?_⟩
  obtain ⟨k', p', r', e, h'⟩ := exists_munch (p ++ r) (by simp [h.ne_nil])
  obtain ⟨rfl, rfl, rfl⟩ := next_unique h (next_of_munch (e ▸ h')) e
  exact h'

end

theorem munched_iff_cut {cs : List Char} {ps : List (Shape × List Char)} : Munched cs ps ↔ Cut cs ps := by
  constructor
  · intro h
    induction h with
    | nil => exact .nil
    | cons hm _ ih => exact .cons (munch_iff_next.mp hm) ih
  · intro h
    induction h with
    | nil => exact .nil
    | cons hn _ ih => exact .cons (munch_iff_next.mpr hn) ih

theorem Cut.ne_nil {cs : List Char} {ps : List (Shape × List Char)} (h : Cut cs ps) : ∀ q ∈ ps, q.2 ≠ [] := by
  intro q hq
  obtain ⟨r, hr⟩ := h.next_of_mem q hq
  exact hr.ne_nil

/-- **Maximal munch.** The rounds of a lexer cut every text into the longest pieces, in the one way there is,
and the stream consists of the items of these pieces and the end of the text. -/
theorem rounds_munch_longest (source : String) :
    ∃ ps, Munched source.toList ps ∧ (∀ qs, Munched source.toList qs → qs = ps) ∧
      (∀ q ∈ ps, q.2 ≠ []) ∧ (ps.map Prod.snd).flatten = source.toList ∧
      (Lexer.ofString source).rounds = ps.map (fun q => some (String.ofList q.2)) ∧
      (Lexer.ofString source).items = itemsFrom 1 ps := by
  obtain ⟨ps, hc⟩ := exists_cut source.toList
  refine ⟨ps, munched_iff_cut.mpr hc, fun qs hq => ?_, hc.ne_nil, hc.flatten, ?_, ?_⟩
  · exact (munched_iff_cut.mp hq).unique hc
  · exact Lexer.rounds_of_cut (Lexer.splits_ofString source) hc
  · exact Lexer.items_ofString hc

end LoxLex
