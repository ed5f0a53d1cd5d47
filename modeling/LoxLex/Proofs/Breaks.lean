import LoxLex.Proofs.Front
import LoxLex.Proofs.Relex

/-!
# Line breaks of two characters

A carriage return before a line feed makes one break with it. A text is read alike with such pairs and with
line feeds in their place. Within a piece, a pair is text of a string. Between two pieces it stands only where
the first is a blank or a comment, and gives nothing with its carriage return or without.
-/

namespace LoxLex

/-- The text with a line feed in the place of each pair. -/
def mergeBreaks : List Char → List Char
  | '\r' :: '\n' :: cs => '\n' :: mergeBreaks cs
  | c :: cs => c :: mergeBreaks cs
  | [] => []

def Literal.merged : Literal → Literal
  | .number x => .number x
  | .string s => .string (.ofList (mergeBreaks s.toList))

def Token.merged (t : Token) : Token :=
  { t with lexeme := .ofList (mergeBreaks t.lexeme.toList), literal := t.literal.map Literal.merged }

def Item.merged : Item → Item
  | .token t => .token t.merged
  | .diagnostic d => .diagnostic d

section
variable {c d : Char} {cs p q r : List Char}

/-! ## Merged texts -/

theorem mergeBreaks_pair (cs : List Char) : mergeBreaks ('\r' :: '\n' :: cs) = mergeBreaks ('\n' :: cs) := rfl

theorem mergeBreaks_cons (h : c = '\r' → cs.head? ≠ some '\n') : mergeBreaks (c :: cs) = c :: mergeBreaks cs := by
  rw [mergeBreaks]
  rintro cs rfl rfl
  exact h rfl rfl

theorem mergeBreaks_cons_of_ne (h : c ≠ '\r') (cs : List Char) : mergeBreaks (c :: cs) = c :: mergeBreaks cs :=
  mergeBreaks_cons fun hc => absurd hc h

theorem mergeBreaks_cons_cases (c : Char) (cs : List Char) :
    mergeBreaks (c :: cs) = c :: mergeBreaks cs ∨
      c = '\r' ∧ cs.head? = some '\n' ∧ mergeBreaks (c :: cs) = mergeBreaks cs := by
  by_cases h : c = '\r' ∧ cs.head? = some '\n'
  · obtain ⟨rfl, hcs⟩ := h
    obtain ⟨cs, rfl⟩ := List.head?_eq_some_iff.mp hcs
    exact .inr ⟨rfl, rfl, mergeBreaks_pair cs⟩
  · exact .inl (mergeBreaks_cons (not_and.mp h))

/-- Parts of a text are merged by themselves if no pair stands half in each. -/
theorem mergeBreaks_append (h : p.getLast? = some '\r' → r.head? ≠ some '\n') :
    mergeBreaks (p ++ r) = mergeBreaks p ++ mergeBreaks r := by
  induction p with
  | nil => rfl
  | cons c p ih =>
    cases p with
    | nil =>
      have h : c = '\r' → r.head? ≠ some '\n' := by simpa using h
      have hc : mergeBreaks [c] = [c] := mergeBreaks_cons (by simp)
      rw [List.singleton_append, mergeBreaks_cons h, hc, List.singleton_append]
    | cons d p =>
      rw [List.getLast?_cons_cons] at h
      by_cases hc : c = '\r' ∧ d = '\n'
      · obtain ⟨rfl, rfl⟩ := hc
        exact ih h
      · have hc : ∀ cs, c = '\r' → (d :: cs).head? ≠ some '\n' := by simpa using hc
        rw [List.cons_append, List.cons_append, mergeBreaks_cons (hc _), mergeBreaks_cons (hc _), ← List.cons_append,
          ih h, List.cons_append]

theorem mergeBreaks_append_pair (p r : List Char) :
    mergeBreaks (p ++ '\r' :: '\n' :: r) = mergeBreaks p ++ mergeBreaks ('\n' :: r) := by
  rw [mergeBreaks_append (by simp), mergeBreaks_pair]

theorem mergeBreaks_sublist (cs : List Char) : (mergeBreaks cs).Sublist cs := by
  induction cs with
  | nil => exact .slnil
  | cons c cs ih =>
    rcases mergeBreaks_cons_cases c cs with h | ⟨-, -, h⟩ <;> rw [h]
    · exact ih.cons_cons c
    · exact ih.cons c

theorem count_mergeBreaks (cs : List Char) : (mergeBreaks cs).count '\n' = cs.count '\n' := by
  induction cs with
  | nil => rfl
  | cons c cs ih =>
    rcases mergeBreaks_cons_cases c cs with h | ⟨rfl, -, h⟩ <;> rw [h]
    · rw [List.count_cons, List.count_cons, ih]
    · simpa using ih

theorem mergeBreaks_eq_self (h : '\n' ∉ cs) : mergeBreaks cs = cs := by
  induction cs with
  | nil => rfl
  | cons c cs ih =>
    simp only [List.mem_cons, not_or] at h
    rw [mergeBreaks_cons, ih h.2]
    intro _ hcs
    exact h.2 (List.mem_of_head? hcs)

theorem head?_mergeBreaks (cs : List Char) :
    (mergeBreaks cs).head? = cs.head? ∨ cs.head? = some '\r' ∧ (mergeBreaks cs).head? = some '\n' := by
  cases cs with
  | nil => exact .inl rfl
  | cons c cs =>
    rcases mergeBreaks_cons_cases c cs with h | ⟨rfl, hcs, h⟩ <;> rw [h]
    · exact .inl rfl
    · obtain ⟨cs, rfl⟩ := List.head?_eq_some_iff.mp hcs
      exact .inr ⟨rfl, rfl⟩

theorem Stops.mergeBreaks {f : Char → Bool} (hf : f '\n' = false) (h : Stops f r) : Stops f (mergeBreaks r) := by
  rcases head?_mergeBreaks r with hr | ⟨-, hr⟩
  · exact h.of_head? hr
  · intro c hc
    obtain rfl : '\n' = c := Option.some.inj (hr.symm.trans hc)
    exact hf

theorem mergeBreaks_quoted (t : List Char) :
    mergeBreaks ('"' :: (t ++ ['"'])) = '"' :: (mergeBreaks t ++ ['"']) := by
  rw [mergeBreaks_cons_of_ne (by decide), mergeBreaks_append (by simp)]
  rfl

/-! ## Merged pieces -/

variable {k : Shape}

theorem Next.merged_rest (h : Next k p r) : Next k p (mergeBreaks r) := by
  by_cases hk : k = .openString
  · subst hk
    obtain rfl := h.rest_eq_nil
    exact h
  rcases head?_mergeBreaks r with hr | ⟨hc, hr⟩
  · apply h.of_head? hk hr
    intro hp he
    obtain ⟨r, rfl⟩ := List.head?_eq_some_iff.mp (hr.symm.trans he)
    rw [mergeBreaks_cons_of_ne (by decide)]
    exact (hp rfl).mergeBreaks rfl
  · -- a blank begins the rest, before and after
    apply h.parted _ hk
    · intro c hc
      obtain rfl : '\n' = c := Option.some.inj (hr.symm.trans hc)
      decide
    · rintro rfl
      cases h with
      | comment _ hs => exact absurd (hs _ hc) (by decide)

/-- A pair within a piece is text of a string. -/
theorem Next.mergeBreaks_eq_self (h : Next k p r) (hs : k ≠ .string) (ho : k ≠ .openString) :
    mergeBreaks p = p := by
  by_cases hm : '\n' ∈ p
  · have ha := h.allows '\n' hm
    cases h with
    | @blank c =>
      obtain rfl : '\n' = c := List.mem_singleton.mp hm
      rfl
    | string => exact absurd rfl hs
    | openString => exact absurd rfl ho
    | _ => cases ha
  · exact LoxLex.mergeBreaks_eq_self hm

theorem Next.merged (h : Next k p r) : Next k (mergeBreaks p) (mergeBreaks r) := by
  have h := h.merged_rest
  by_cases hs : k = .string ∨ k = .openString
  · generalize mergeBreaks r = r' at h
    cases h with
    | @string t _ ht =>
      rw [mergeBreaks_quoted]
      exact .string fun hm => ht ((mergeBreaks_sublist t).mem hm)
    | @openString t ht =>
      rw [mergeBreaks_cons_of_ne (by decide)]
      exact .openString fun hm => ht ((mergeBreaks_sublist t).mem hm)
    | _ => simp at hs
  · rw [not_or] at hs
    rwa [h.mergeBreaks_eq_self hs.1 hs.2]

theorem Shape.item?_merged (h : Next k p r) (line : Nat) :
    k.item? line (mergeBreaks p) = (k.item? line p).map Item.merged := by
  by_cases hs : k = .string ∨ k = .openString
  · cases h with
    | string => rw [mergeBreaks_quoted]; simp [item?, Item.merged, Token.merged, Literal.merged, mergeBreaks_quoted]
    | openString => simp [item?, Item.merged, count_mergeBreaks]
    | _ => simp at hs
  · rw [not_or] at hs
    have hp := h.mergeBreaks_eq_self hs.1 hs.2
    rw [hp]
    cases k <;> simp [item?, Item.merged, Token.merged, Literal.merged, hp]
    simp at hs

theorem Next.comment_without_return (h : Next .comment (p ++ ['\r']) r) : Next .comment p r := by
  generalize hq : p ++ ['\r'] = q at h
  cases h with
  | @comment t _ ht hr =>
    rcases List.eq_nil_or_concat t with rfl | ⟨u, c, rfl⟩
    · have := congrArg List.getLast? hq
      simp at this
    · rw [List.concat_eq_append, ← List.cons_append, ← List.cons_append] at hq
      obtain ⟨rfl, -⟩ := List.append_inj' hq rfl
      simp only [List.concat_eq_append, List.mem_append, not_or] at ht
      exact .comment ht.1 hr

/-- The carriage return of a pair is a blank or ends a comment. -/
theorem Next.of_return (h : Next k (p ++ ['\r']) ('\n' :: r)) :
    k = .blank ∧ p = [] ∨ k = .comment ∧ Next .comment p ('\n' :: r) := by
  have ha := h.allows '\r' (by simp)
  cases k with
  | blank =>
    generalize hq : p ++ ['\r'] = q at h
    cases h with
    | blank => exact .inl ⟨rfl, (List.append_eq_singleton_iff.mp hq).elim And.left fun h => by simp at h⟩
  | comment => exact .inr ⟨rfl, h.comment_without_return⟩
  | string =>
    have := h.getLast?_string
    simp at this
  | openString => cases h.rest_eq_nil
  | _ => cases ha

/-! ## Merged cuts -/

theorem Next.itemsFrom_comment (h : Next .comment p r) (line : Nat) (ps : List (Shape × List Char)) :
    itemsFrom line ((.comment, p) :: ps) = itemsFrom line ps := by
  cases h with
  | comment ht => exact LoxLex.itemsFrom_comment ht line ps

theorem Cut.merged {ps : List (Shape × List Char)} (h : Cut cs ps) : ∃ qs, Cut (mergeBreaks cs) qs ∧
    ∀ line, itemsFrom line qs = (itemsFrom line ps).map Item.merged := by
  induction h with
  | nil => exact ⟨[], .nil, fun _ => rfl⟩
  | @cons k p r ps hn _ ih =>
    obtain ⟨qs, hq, hi⟩ := ih
    by_cases hb : p.getLast? = some '\r' ∧ r.head? = some '\n'
    · -- the carriage return goes, and with it a blank or nothing but the end of a comment
      obtain ⟨p, rfl⟩ := List.getLast?_eq_some_iff.mp hb.1
      obtain ⟨r, rfl⟩ := List.head?_eq_some_iff.mp hb.2
      rw [List.append_assoc, List.singleton_append, mergeBreaks_append_pair]
      rcases hn.of_return with ⟨rfl, rfl⟩ | ⟨rfl, hn'⟩
      · exact ⟨qs, hq, hi⟩
      · refine ⟨_, .cons hn'.merged hq, fun line => ?_⟩
        rw [hn'.merged.itemsFrom_comment, hn.itemsFrom_comment, hi]
    · rw [mergeBreaks_append (not_and.mp hb)]
      refine ⟨_, .cons hn.merged hq, fun line => ?_⟩
      rw [itemsFrom_cons, itemsFrom_cons, Shape.item?_merged hn, count_mergeBreaks, hi, List.map_append]
      cases k.item? line p <;> rfl

end

def merged (s : String) : String := .ofList (mergeBreaks s.toList)

theorem tokensOf_merged (is : List Item) : tokensOf (is.map Item.merged) = (tokensOf is).map Token.merged := by
  rw [tokensOf, tokensOf, List.filterMap_map, List.map_filterMap]
  congr 1
  funext i
  cases i <;> rfl

theorem diagnosticsOf_merged (is : List Item) : diagnosticsOf (is.map Item.merged) = diagnosticsOf is := by
  rw [diagnosticsOf, diagnosticsOf, List.filterMap_map]
  congr 1
  funext i
  cases i <;> rfl

/-- **Line breaks of two characters.** A text and its merged text have the same items once the items are merged,
and with the same tokens the same diagnostics reach the sink. -/
theorem lex_merged {σ : Type} [Sink σ] (source : String) (sink : σ) :
    (Lexer.ofString (merged source)).items = (Lexer.ofString source).items.map Item.merged ∧
    lex (merged source) sink = ((lex source sink).1.map Token.merged, (lex source sink).2) := by
  obtain ⟨ps, hc⟩ := exists_cut source.toList
  obtain ⟨qs, hq, hi⟩ := hc.merged
  have h : (Lexer.ofString (merged source)).items = (Lexer.ofString source).items.map Item.merged := by
    rw [Lexer.items_ofString hc, Lexer.items_ofString (s := merged source) (by simpa [merged] using hq), hi]
  refine ⟨h, ?_⟩
  rw [lex_eq, lex_eq, h, tokensOf_merged, diagnosticsOf_merged]

example : merged "a\r\r\n\r\"\r\n\"//\r\r\n" = "a\r\n\r\"\n\"//\r\n" := by decide +kernel

end LoxLex
