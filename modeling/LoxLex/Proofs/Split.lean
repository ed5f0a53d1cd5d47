import LoxLex.Lexer.Basic

/-!
# Where a lexer stands

A lexer keeps byte offsets and line numbers beside its cursor. In every state the text is split into what
the earlier pieces took, the current piece so far, and what is left, and both places are counted from these
three. A move hands characters from the last part to the middle one, so the text of the current piece can
always be cut out of the source.
-/

namespace LoxLex

/-! ## Runs of characters -/

def Stops (f : Char → Bool) (r : List Char) : Prop := ∀ c, r.head? = some c → f c = false

section
variable {f : Char → Bool} {t r : List Char}

theorem stops_nil : Stops f [] := fun _ h => by cases h

theorem stops_cons {c : Char} (h : f c = false) : Stops f (c :: r) := by
  intro d hd
  obtain rfl := Option.some.inj hd
  exact h

theorem stops_of_not (h : ∀ c, r.head? = some c → ¬ f c = true) : Stops f r := by
  intro c hc
  exact Bool.eq_false_iff.mpr (h c hc)

theorem takeWhile_run (ht : ∀ c ∈ t, f c = true) (hr : Stops f r) : (t ++ r).takeWhile f = t := by
  rw [List.takeWhile_append_of_pos ht]
  cases r with
  | nil => simp
  | cons c r => simp [hr c rfl]

theorem dropWhile_run (ht : ∀ c ∈ t, f c = true) (hr : Stops f r) : (t ++ r).dropWhile f = r := by
  rw [List.dropWhile_append_of_pos ht]
  cases r with
  | nil => rfl
  | cons c r => simp [hr c rfl]

theorem exists_run (f : Char → Bool) : ∀ cs : List Char,
    ∃ t r, cs = t ++ r ∧ (∀ c ∈ t, f c = true) ∧ Stops f r
  | [] => ⟨[], [], rfl, by simp, stops_nil⟩
  | c :: cs => by
    cases hc : f c with
    | true =>
      obtain ⟨t, r, rfl, ht, hr⟩ := exists_run f cs
      exact ⟨c :: t, r, rfl, List.forall_mem_cons.mpr ⟨hc, ht⟩, hr⟩
    | false => exact ⟨[], c :: cs, rfl, by simp, stops_cons hc⟩

end

theorem count_cons_eq (c : Char) (cs : List Char) : (c :: cs).count '\n' = [c].count '\n' + cs.count '\n' := by
  rw [← List.count_append]; rfl

namespace Lexer

/-- The text of `l` is `b`, then the current piece `p`, then `r`, and the places of `l` say so. -/
structure Splits (l : Lexer) (b p r : List Char) : Prop where
  source : l.source.toList = b ++ p ++ r
  start : l.start = Place.origin.pastAll b
  place : l.cursor.place = Place.origin.pastAll (b ++ p)
  rest : l.cursor.rest = r

theorem splits_ofString (s : String) : (ofString s).Splits [] [] s.toList := ⟨rfl, rfl, rfl, rfl⟩

@[simp] theorem source_mark (l : Lexer) : l.mark.source = l.source := rfl

@[simp] theorem source_advance (l : Lexer) : l.advance.source = l.source := rfl

@[simp] theorem source_skipWhile (f : Char → Bool) (l : Lexer) : (l.skipWhile f).source = l.source := rfl

namespace Splits
variable {l : Lexer} {b p r : List Char}

/-! ## Moves -/

theorem mark (h : l.Splits b p r) : l.mark.Splits (b ++ p) [] r :=
  ⟨by simpa using h.source, h.place, by simpa using h.place, h.rest⟩

theorem advance {c : Char} (h : l.Splits b p (c :: r)) : l.advance.Splits b (p ++ [c]) r := by
  have hk : l.advance.cursor = ⟨r, l.cursor.place.past c⟩ := Cursor.advance_of_rest_cons h.rest
  refine ⟨?_, h.start, ?_, by rw [hk]⟩
  · simpa using h.source
  · rw [hk, h.place, ← List.append_assoc, Place.pastAll_append _ (b ++ p)]
    rfl

theorem skipWhile {f : Char → Bool} {t : List Char} (h : l.Splits b p (t ++ r)) (ht : ∀ c ∈ t, f c = true)
    (hr : Stops f r) : (l.skipWhile f).Splits b (p ++ t) r := by
  have hk : (l.skipWhile f).cursor = ⟨r, l.cursor.place.pastAll t⟩ := by
    rw [cursor_skipWhile, Cursor.skipWhile_eq, h.rest, takeWhile_run ht hr, dropWhile_run ht hr]
  refine ⟨?_, h.start, ?_, by rw [hk]⟩
  · simpa using h.source
  · rw [hk, h.place, ← List.append_assoc, Place.pastAll_append _ (b ++ p)]

/-! ## What is read off -/

theorem peek? (h : l.Splits b p r) : l.cursor.peek? = r.head? := by rw [Cursor.peek?, h.rest]

theorem peekSecond? (h : l.Splits b p r) : l.cursor.peekSecond? = r.tail.head? := by
  rw [Cursor.peekSecond?, h.rest]

theorem line (h : l.Splits b p r) : l.cursor.place.line = 1 + (b ++ p).count '\n' := by
  rw [h.place, Place.line_pastAll]; rfl

theorem start_line (h : l.Splits b p r) : l.start.line = 1 + b.count '\n' := by
  rw [h.start, Place.line_pastAll]; rfl

theorem line_add {l' : Lexer} {q : List Char} (h : l.Splits b p (q ++ r)) (h' : l'.Splits (b ++ p) q r) :
    l'.cursor.place.line = l.cursor.place.line + q.count '\n' := by
  rw [h'.line, h.line, List.count_append, Nat.add_assoc]

theorem source_eq (h : l.Splits b p r) :
    l.source = String.ofList b ++ String.ofList p ++ String.ofList r := by
  rw [← String.ofList_append, ← String.ofList_append, ← h.source, String.ofList_toList]

theorem start_offset (h : l.Splits b p r) : l.start.offset = (String.ofList b).utf8ByteSize := by
  rw [h.start, Place.offset_pastAll]
  exact Nat.zero_add _

theorem offset (h : l.Splits b p r) : l.cursor.place.offset = (String.ofList (b ++ p)).utf8ByteSize := by
  rw [h.place, Place.offset_pastAll]
  exact Nat.zero_add _

theorem lexeme? (h : l.Splits b p r) : l.lexeme? = some (String.ofList p) := by
  have he : l.cursor.place.offset = (String.ofList b).utf8ByteSize + (String.ofList p).utf8ByteSize := by
    rw [h.offset, String.ofList_append, String.utf8ByteSize_append]
  rw [Lexer.lexeme?, h.start_offset, he, h.source_eq]
  exact slice?_append _ _ _

/-- The ends of the current piece are taken off by bytes, which is right for characters of one byte. -/
theorem inner? {c d : Char} {t : List Char} (h : l.Splits b (c :: (t ++ [d])) r) (hc : c.utf8Size = 1)
    (hd : d.utf8Size = 1) : l.inner? = some (String.ofList t) := by
  have hs : l.source = String.ofList (b ++ [c]) ++ String.ofList t ++ String.ofList (d :: r) := by
    rw [h.source_eq, ← String.ofList_append, ← String.ofList_append, ← String.ofList_append,
      ← String.ofList_append]
    simp
  have hb : l.start.offset + 1 = (String.ofList (b ++ [c])).utf8ByteSize := by
    rw [h.start_offset, String.ofList_append, String.utf8ByteSize_append]
    simp [hc]
  have he : l.cursor.place.offset - 1 =
      (String.ofList (b ++ [c])).utf8ByteSize + (String.ofList t).utf8ByteSize := by
    rw [← hb, h.offset, h.start_offset, String.ofList_append, String.ofList_cons, String.ofList_append,
      String.utf8ByteSize_append, String.utf8ByteSize_append, String.utf8ByteSize_append]
    simp [hc, hd]
    omega
  rw [Lexer.inner?, hb, he, hs]
  exact slice?_append _ _ _

theorem token (h : l.Splits b p r) (kind : Kind) (literal : Option Literal) :
    l.token kind literal = .token ⟨kind, String.ofList p, literal, 1 + b.count '\n'⟩ := by
  rw [Lexer.token, h.lexeme?, h.start_line]; rfl

/-! ## Nothing else is kept -/

theorem piece_eq {p' r' : List Char} (h : l.Splits b p r) (h' : l.Splits b p' r') : p = p' := by
  obtain rfl : r = r' := h.rest.symm.trans h'.rest
  have hs := h.source.symm.trans h'.source
  simpa using hs

theorem lexer_eq {l' : Lexer} (h : l.Splits b p r) (h' : l'.Splits b p r) (he : l.ended = l'.ended) : l = l' := by
  obtain ⟨s₁, p₁, ⟨r₁, k₁⟩, e₁⟩ := l
  obtain ⟨s₂, p₂, ⟨r₂, k₂⟩, e₂⟩ := l'
  obtain rfl : s₁ = s₂ := String.toList_injective (h.source.trans h'.source.symm)
  obtain rfl : p₁ = p₂ := h.start.trans h'.start.symm
  obtain rfl : r₁ = r₂ := h.rest.trans h'.rest.symm
  obtain rfl : k₁ = k₂ := h.place.trans h'.place.symm
  rw [show e₁ = e₂ from he]

end Splits
end Lexer
end LoxLex
