import LoxLex.Proofs.Playback

/-!
# Lines

A token and a stray character are on the line on which they begin, an open string and the end of the text on
the last line. A lexer that has just delivered an item shows by what is left where the item stands in the
text, so nothing is said about an item that could as well be meant of another. Along the stream lines never
decrease.
-/

namespace LoxLex

def Item.line : Item → Nat
  | .token t => t.line
  | .diagnostic d => d.line

/-- The line of an item of `cs` that has just been read, with `r` left. -/
def Item.Dated (cs r : List Char) : Item → Prop
  | .token t => (∃ b, cs = b ++ t.lexeme.toList ++ r ∧ t.line = 1 + b.count '\n') ∧
      (t.kind = .endOfFile → t.line = 1 + cs.count '\n')
  | .diagnostic ⟨line, .unexpectedCharacter c⟩ => ∃ b, cs = b ++ [c] ++ r ∧ line = 1 + b.count '\n'
  | .diagnostic ⟨line, .unterminatedString⟩ => line = 1 + cs.count '\n'

/-! ## Where an item stands -/

theorem Shape.item?_dated {k : Shape} {b p r : List Char} {i : Item} (hn : Next k p r)
    (hi : k.item? (1 + b.count '\n') p = some i) : i.Dated (b ++ p ++ r) r := by
  cases i with
  | token t =>
    obtain ⟨hp, hl, hk, _⟩ := item?_token hi
    exact ⟨⟨b, by rw [hp], hl⟩, fun h => absurd h hk⟩
  | diagnostic d =>
    cases hn with
    | openString =>
      cases hi
      show _ = 1 + _
      rw [List.append_nil, List.count_append, Nat.add_assoc]
    | stray =>
      cases hi
      exact ⟨b, rfl, rfl⟩
    | _ => cases hi

namespace Lexer

/-- A lexer that is somewhere in the text `cs`. -/
def Within (l : Lexer) (cs : List Char) : Prop :=
  l.source.toList = cs ∧ ∃ b p, l.Splits b p l.cursor.rest

theorem within_ofString (s : String) : (ofString s).Within s.toList := ⟨rfl, [], [], splits_ofString s⟩

section
variable {l l' : Lexer} {cs r : List Char} {c : Char} {i : Item}

theorem Within.mark (h : l.Within cs) : l.mark.Within cs := by
  obtain ⟨hs, b, p, h⟩ := h
  exact ⟨hs, b ++ p, [], h.mark⟩

theorem Within.advance (h : l.Within cs) : l.advance.Within cs := by
  obtain ⟨hs, b, p, h⟩ := h
  cases hr : l.cursor.rest with
  | nil =>
    have hl : l.advance = l := by simp [Lexer.advance, Cursor.advance, hr]
    rw [hl]
    exact ⟨hs, b, p, h⟩
  | cons c r =>
    rw [hr] at h
    have h₁ := h.advance
    exact ⟨hs, b, p ++ [c], by rwa [h₁.rest]⟩

theorem Within.finish (h : l.Within cs) : Within { l with ended := true } cs := by
  obtain ⟨hs, b, p, h⟩ := h
  exact ⟨hs, b, p, h.source, h.start, h.place, rfl⟩

theorem round_dated (h : l.Within cs) (hr : l.cursor.rest = c :: r) :
    (l.round c).2.Within cs ∧ ∀ i, (l.round c).1 = some i → i.Dated cs (l.round c).2.cursor.rest := by
  obtain ⟨rfl, b, a, hs⟩ := h
  rw [hr] at hs
  obtain ⟨k, p, r', e, hn, hi, h₁⟩ := exists_round hs
  have hcs : l.source.toList = b ++ a ++ p ++ r' := by rw [hs.source, e, List.append_assoc _ p]
  refine ⟨⟨h₁.source.trans hcs.symm, b ++ a, p, by rwa [h₁.rest]⟩, fun i hir => ?_⟩
  rw [hi, hs.line] at hir
  rw [hcs, h₁.rest]
  exact Shape.item?_dated hn hir

theorem next_dated (h : l.Within cs) (hn : l.next = (some i, l')) :
    l'.Within cs ∧ i.Dated cs l'.cursor.rest := by
  fun_induction next l with
  | case1 => cases hn
  | case2 l hr =>
    obtain ⟨hi, rfl⟩ := Prod.mk.inj hn
    obtain rfl := Option.some.inj hi
    refine ⟨h.mark.finish, ?_⟩
    obtain ⟨rfl, b, a, hs⟩ := h
    rw [hr] at hs
    have hl : l.cursor.place.line = 1 + l.source.toList.count '\n' := by
      rw [hs.line, hs.source, List.append_nil]
    exact ⟨⟨l.source.toList, by simp [Token.endOfFile, hr], hl⟩, fun _ => hl⟩
  | case3 l c r hr i' l₁ h₁ =>
    obtain ⟨hi, rfl⟩ := Prod.mk.inj hn
    have h₂ := round_dated h hr
    rw [h₁] at h₂
    exact ⟨h₂.1, h₂.2 i hi⟩
  | case4 l c r hr l₁ h₁ ih =>
    have h₂ := round_dated h hr
    rw [h₁] at h₂
    exact ih h₂.1 hn

theorem nth_dated (n : Nat) (h : l.Within cs) (hn : (l.nth n).1 = some i) :
    i.Dated cs (l.nth n).2.cursor.rest := by
  induction n generalizing l with
  | zero => exact (next_dated h (Prod.ext hn rfl)).2
  | succ n ih =>
    unfold nth at hn ⊢
    split at hn
    · cases hn
    · rename_i j l₁ h₁
      exact ih (next_dated h h₁).1 hn

end
end Lexer

/-! ## The order of lines -/

theorem Shape.item?_line {k : Shape} {line : Nat} {p : List Char} {i : Item} (h : k.item? line p = some i) :
    line ≤ i.line ∧ i.line ≤ line + p.count '\n' := by
  cases k <;> cases h <;> simp [Item.line, Diagnostic.unterminatedString, Diagnostic.unexpectedCharacter]

theorem line_le_of_mem_itemsFrom {line : Nat} {ps : List (Shape × List Char)} {i : Item}
    (h : i ∈ itemsFrom line ps) : line ≤ i.line := by
  induction ps generalizing line with
  | nil =>
    obtain rfl := List.mem_singleton.mp h
    exact Nat.le_refl line
  | cons q ps ih =>
    rw [itemsFrom_cons] at h
    rcases List.mem_append.mp h with h | h
    · exact (Shape.item?_line (Option.mem_toList.mp h)).1
    · exact Nat.le_trans (Nat.le_add_right _ _) (ih h)

theorem pairwise_itemsFrom (line : Nat) (ps : List (Shape × List Char)) :
    (itemsFrom line ps).Pairwise fun i j => i.line ≤ j.line := by
  induction ps generalizing line with
  | nil => exact List.pairwise_singleton _ _
  | cons q ps ih =>
    rw [itemsFrom_cons]
    refine List.pairwise_append.mpr ⟨?_, ih _, fun i hi j hj => ?_⟩
    · cases q.1.item? line q.2 <;> simp
    · have h₁ := (Shape.item?_line (Option.mem_toList.mp hi)).2
      exact Nat.le_trans h₁ (line_le_of_mem_itemsFrom hj)

/-- **Lines.** Each item of a stream has the line that its place in the text gives it, and lines never
decrease. -/
theorem items_dated (source : String) :
    (∀ (n : Nat) (i : Item), (Lexer.ofString source).items[n]? = some i →
      i.Dated source.toList ((Lexer.ofString source).nth n).2.cursor.rest) ∧
    (Lexer.ofString source).items.Pairwise fun i j => i.line ≤ j.line := by
  constructor
  · intro n i h
    rw [← (Lexer.nth_items n _).1] at h
    exact Lexer.nth_dated n (Lexer.within_ofString source) h
  · obtain ⟨ps, hc⟩ := exists_cut source.toList
    rw [Lexer.items_ofString hc]
    exact pairwise_itemsFrom 1 ps

example : (Lexer.ofString "\"a\n\r\n\" @ // b\n\"\n").items.map Item.line = [1, 3, 5, 5] := by decide +kernel

end LoxLex
