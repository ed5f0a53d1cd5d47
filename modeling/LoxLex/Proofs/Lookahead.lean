import LoxLex.Proofs.Layout
import LoxLex.Proofs.Line

/-!
# Lookahead

Where a piece ends is told by the two characters behind it, so what is written behind those two does not
change it. A text that grows keeps the items of all its pieces but the last two. Two characters are needed,
since a point behind a numeral may belong to it or not.
-/

namespace LoxLex

section
variable {k : Shape} {p r b : List Char} {ps : List (Shape × List Char)}

theorem Next.append (h : Next k p r) (hr : 2 ≤ r.length) (s : List Char) : Next k p (r ++ s) := by
  match r, hr with
  | c :: d :: r, _ =>
    refine h.of_head? ?_ rfl fun hp hc => (hp hc).of_head? rfl
    rintro rfl
    cases h

theorem Front.append (h : Front r b ps) (hr : 2 ≤ r.length) (s : List Char) : Front (r ++ s) b ps := by
  induction h with
  | nil => exact .nil
  | @cons k p b ps hn _ ih =>
    refine .cons ?_ ih
    rw [← List.append_assoc]
    exact hn.append (by rw [List.length_append]; omega) s

end

namespace Lexer
variable {l l' l'' : Lexer} {is js : List Item} {i : Item} {b a d r cs : List Char}
  {ps : List (Shape × List Char)} {s : String}

/-! ## Rounds one after another -/

theorem Reads.trans (h : l.Reads is l') (h' : l'.Reads js l'') : l.Reads (is ++ js) l'' := by
  induction h with
  | refl => exact h'
  | round hr _ ih =>
    rw [List.append_assoc]
    exact .round hr (ih h')

theorem Reads.rest_ne_nil (h : l.Reads is l') (hr : l'.cursor.rest ≠ []) : l.cursor.rest ≠ [] := by
  cases h with
  | refl => exact hr
  | round hc => simp [hc]

theorem Reads.within (h : l.Reads is l') (hl : l.Within cs) : l'.Within cs := by
  induction h with
  | refl => exact hl
  | round hr _ ih => exact ih (round_dated hl hr).1

theorem Reads.boundary (h : (ofString s).Reads is l) : ∃ d, Boundary s d is l ∧
    l.cursor.place = Place.origin.pastAll d := by
  obtain ⟨hs, b, p, hl⟩ := h.within (within_ofString s)
  exact ⟨b ++ p, ⟨h, hs ▸ hl.source⟩, hl.place⟩

theorem next_reads (h : l.next = (some i, l')) (hr : l'.cursor.rest ≠ []) : l.Reads [i] l' := by
  fun_induction next l with
  | case1 => cases h
  | case2 l he =>
    obtain ⟨-, rfl⟩ := Prod.mk.inj h
    exact absurd he hr
  | case3 l c r hc i' l₁ h₁ =>
    obtain ⟨hi, rfl⟩ := Prod.mk.inj h
    have h₂ : l.Reads ((l.round c).1.toList ++ []) (l.round c).2 := .round hc .refl
    rwa [h₁, hi] at h₂
  | case4 l c r hc l₁ h₁ ih =>
    have h₂ : l.Reads ((l.round c).1.toList ++ [i]) l' := .round hc (by rw [h₁]; exact ih h)
    rwa [h₁] at h₂

theorem nth_reads (n : Nat) (h : (l.nth n).1 = some i) (hr : (l.nth n).2.cursor.rest ≠ []) :
    ∃ is, is.length = n ∧ l.Reads (is ++ [i]) (l.nth n).2 := by
  induction n generalizing l with
  | zero => exact ⟨[], rfl, next_reads (Prod.ext h rfl) hr⟩
  | succ n ih =>
    match h₁ : l.next with
    | (none, l₁) =>
      rw [nth, h₁] at h
      cases h
    | (some j, l₁) =>
      simp only [nth, h₁] at h hr ⊢
      obtain ⟨is, hn, hl⟩ := ih h hr
      exact ⟨j :: is, by rw [List.length_cons, hn], (next_reads h₁ (hl.rest_ne_nil hr)).trans hl⟩

theorem length_rounds_le (l : Lexer) : l.rounds.length ≤ l.left := by
  fun_induction rounds l with
  | case1 => exact Nat.zero_le _
  | case2 l c r hc ih =>
    have := left_round_lt hc
    rw [List.length_cons]
    omega

/-! ## Rounds in a longer text -/

theorem exists_reads_of_front (h : Front r d ps) (hs : l.Splits b a (d ++ r)) :
    ∃ l', l.Reads (itemsOf l.cursor.place.line ps) l' ∧
      l'.cursor = ⟨r, Place.origin.pastAll (b ++ a ++ d)⟩ := by
  induction h generalizing l b a with
  | nil =>
    refine ⟨l, .refl, ?_⟩
    rw [List.append_nil, ← hs.place, ← List.nil_append r, ← hs.rest]
  | @cons k p d ps hn _ ih =>
    rw [List.append_assoc] at hs
    obtain ⟨c, t, hc, hi, h₁⟩ := round_of_next hs hn
    obtain ⟨l', hl, he⟩ := ih h₁
    refine ⟨l', ?_, by rw [he, List.append_assoc _ p]⟩
    rw [itemsOf, ← hi, ← hs.line_add h₁]
    exact .round (hs.rest.trans hc) hl

/-- Rounds that leave two characters go the same way in a longer text. -/
theorem Reads.append (h : (ofString s).Reads is l) (hr : 2 ≤ l.cursor.rest.length) (t : String) :
    ∃ l', (ofString (s ++ t)).Reads is l' ∧ l'.cursor = ⟨l.cursor.rest ++ t.toList, l.cursor.place⟩ := by
  obtain ⟨d, hb, hp⟩ := h.boundary
  obtain ⟨ps, hf, hi, -⟩ := hb.front
  have hs : (ofString (s ++ t)).Splits [] [] (d ++ (l.cursor.rest ++ t.toList)) := by
    rw [← List.append_assoc, ← hb.source_eq, ← String.toList_append]
    exact splits_ofString _
  obtain ⟨l', hl, he⟩ := exists_reads_of_front (hf.append hr t.toList) hs
  exact ⟨l', hi ▸ hl, he.trans (congrArg _ hp.symm)⟩

end Lexer

open Lexer in
/-- **Lookahead.** What is written behind a text changes no item whose piece ends two characters before the end
of the text, and only what was made of its last two pieces. One character is not enough. -/
theorem items_append :
    (∀ (s t : String) (n : Nat) (i : Item), (ofString s).items[n]? = some i →
      2 ≤ ((ofString s).nth n).2.cursor.rest.length → (ofString (s ++ t)).items[n]? = some i) ∧
    (∀ (s t : String) (is : List Item) (l : Lexer), (ofString s).Reads is l → 2 ≤ l.rounds.length →
      ∃ l', (ofString (s ++ t)).Reads is l' ∧ l'.cursor = ⟨l.cursor.rest ++ t.toList, l.cursor.place⟩ ∧
        (ofString s).items = is ++ l.items ∧ (ofString (s ++ t)).items = is ++ l'.items) ∧
    ((ofString "1.").nth 0).2.cursor.rest.length = 1 ∧
      (ofString "1.").items[0]? ≠ (ofString ("1." ++ "5")).items[0]? := by
  refine ⟨fun s t n i h hr => ?_, fun s t is l h hr => ?_, by decide +kernel⟩
  · rw [← (nth_items n _).1] at h
    have hne : ((ofString s).nth n).2.cursor.rest ≠ [] := by
      intro he
      rw [he] at hr
      cases hr
    obtain ⟨is, hn, hl⟩ := nth_reads n h hne
    obtain ⟨l', hl', -⟩ := hl.append hr t
    obtain ⟨d, hb, -⟩ := hl'.boundary
    rw [hb.items_eq, ← hn]
    simp
  · obtain ⟨l', hl, hc⟩ := h.append (Nat.le_trans hr l.length_rounds_le) t
    obtain ⟨d, hb, -⟩ := h.boundary
    obtain ⟨d', hb', -⟩ := hl.boundary
    exact ⟨l', hl, hc, hb.items_eq, hb'.items_eq⟩

/-- The number ends two characters before the end, on the second line, behind a comment. -/
theorem items_append_two_points :
    (Lexer.ofString "// 1\n12..").items[0]? =
        some (.token ⟨.number, "12", some (.number ⟨0x4028000000000000⟩), 2⟩) ∧
      2 ≤ ((Lexer.ofString "// 1\n12..").nth 0).2.cursor.rest.length ∧
      (Lexer.ofString ("// 1\n12.." ++ "5")).items[0]? =
        some (.token ⟨.number, "12", some (.number ⟨0x4028000000000000⟩), 2⟩) := by
  have hi : (Lexer.ofString "// 1\n12..").items[0]? =
      some (.token ⟨.number, "12", some (.number ⟨0x4028000000000000⟩), 2⟩) := by decide +kernel
  have hr : 2 ≤ ((Lexer.ofString "// 1\n12..").nth 0).2.cursor.rest.length := by decide +kernel
  exact ⟨hi, hr, items_append.1 _ "5" 0 _ hi hr⟩

end LoxLex
